import HelpWiring.Proofs.Page.Fragment
import HelpWiring.Proofs.Page.Insertion

/-!
# Guards

Whether a page has a fragment is asked of the whole page, and the answer can
only turn from no to yes. What the guards look for has no blank in it as long
as the tag has none, and nothing solid is torn apart at a seam, so a fragment
that a page has stays there, whatever is put in for the same tag or another.

The other half is that a fragment that was put in is found. For the imports
and the popup element that is so for every tag. The hook call is indented line
by line, so there the tag must be on one line, or the line unindented.

## Theorems

* `hasFragment_inserted`: A page keeps its fragments when a block is put in.
* `hasFragment_add`: It keeps them in a step for any fragment.
* `text_infix_body`: Where a fragment stands word for word in the page.
* `hasFragment_of_added`: A fragment that was put in is there.
-/

namespace HelpWiring

/-- A page keeps its fragments when a block is put in at a seam. -/
theorem hasFragment_inserted {page block new : Text} {kind : Kind} {tag : Text}
    (hins : Inserted page block new) (ht : kind = .imports ∨ tag.isSolid = true)
    (h : hasFragment page kind tag = true) : hasFragment new kind tag = true := by
  rcases hins with ⟨a, b, rfl, rfl, hseam⟩
  have keep : ∀ piece : Text, piece.isSolid = true → (a ++ b).mentions piece = true →
      (a ++ (block ++ b)).mentions piece = true :=
    fun _ hsolid => Text.mentions_insert block hsolid hseam
  have hsingle : isBlank '\'' = false := by decide
  have hdouble : isBlank '"' = false := by decide
  cases kind with
  | imports =>
      simp only [hasFragment, Bool.and_eq_true] at h ⊢
      exact ⟨keep _ (by decide) h.1, keep _ (by decide) h.2⟩
  | hook =>
      have htag : tag.isSolid = true := ht.resolve_left (by decide)
      simp only [hasFragment, Bool.or_eq_true] at h ⊢
      exact h.imp (keep _ (isSolid_hookCall hsingle htag)) (keep _ (isSolid_hookCall hdouble htag))
  | component =>
      have htag : tag.isSolid = true := ht.resolve_left (by decide)
      simp only [hasFragment, Bool.or_eq_true] at h ⊢
      exact h.imp (keep _ (isSolid_keyAttribute hdouble htag))
        (keep _ (isSolid_keyAttribute hsingle htag))

/-- The fragment stands in the page word for word, unless it is cut into lines
    that are indented one by one. -/
theorem text_infix_body {slot : Slot} {fragment : Text}
    (h : '\n' ∉ fragment ∨ slot.spaces = 0) : fragment <:+: slot.body fragment := by
  rcases h with hline | hspaces
  · rw [slot.body_of_oneLine hline]
    exact (List.suffix_append _ _).isInfix
  · exact (Slot.body_of_unindented hspaces fragment).symm ▸ List.infix_rfl

namespace Page

theorem hasFragment_add {page : Text} {kind : Kind} {tag : Text}
    (ht : kind = .imports ∨ tag.isSolid = true) (h : hasFragment page kind tag = true)
    (kind' : Kind) (tag' : Text) :
    hasFragment (add page kind' tag').1 kind tag = true := by
  rcases add_unchanged_or_inserted page kind' tag' with hsame | ⟨block, hins⟩
  · rw [hsame]
    exact h
  · exact hasFragment_inserted hins ht h

/-- A fragment that was put in is there, unless its tag was cut into indented
    lines. -/
theorem hasFragment_of_added {page new : Text} {kind : Kind} {tag : Text} {slot : Slot}
    (hslot : findSlot page kind = .ok slot) (h : add page kind tag = (new, .added))
    (htag : kind ≠ .hook ∨ '\n' ∉ tag ∨ slot.spaces = 0) : hasFragment new kind tag = true := by
  rcases added_inversion h with ⟨-, slot', hslot', hnew⟩
  obtain rfl : slot = slot' := Except.ok.inj (hslot.symm.trans hslot')
  rcases inserted_of_findSlot hslot hnew with ⟨block, ⟨a, b, -, rfl, -⟩, hblock⟩
  have hbody : kind.text tag <:+: slot.body (kind.text tag) := by
    refine text_infix_body ?_
    cases kind with
    | imports =>
        rcases importSlot_eq_ok hslot with ⟨i, rfl, -⟩
        exact Or.inr rfl
    | hook =>
        rcases htag with hne | hline | hspaces
        · exact absurd rfl hne
        · exact Or.inl (notMem_hookLine hline)
        · exact Or.inr hspaces
    | component =>
        rcases popupSlot_eq_ok hslot with ⟨c, d, -, rfl, -⟩
        exact Or.inr rfl
  refine hasFragment_of_infix ?_
  exact List.infix_append_of_infix_right (List.infix_append_of_infix_left
    (hbody.trans (Slot.body_infix_of_block hblock)))

end Page

end HelpWiring
