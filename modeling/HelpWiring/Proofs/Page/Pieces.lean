import HelpWiring.Proofs.Page.Insertion
import HelpWiring.Proofs.Page.Signs
import Mathlib.Logic.Basic

/-!
# Pieces That Stay Whole

What a page holds after wiring cannot be told from the page and the fragments
alone, for a text may be torn where a fragment goes in, or come about where a
fragment meets the page. It can be told for a text that stays whole: one on a
single line that does not start with a space, and does not lie across the start
of the closing lines. New lines are rows of their own, behind spaces, and the
popup element starts and ends with a line feed, so they leave such a text alone.

All that the guards look for stays whole, for it has no blanks. So a guard says
yes after wiring exactly if it did before, or if it says yes to a fragment that
went in.

## Main definitions

* `Whole`: A text that stays whole.

## Theorems

* `whole_of_isSolid`: A text without blanks stays whole.
* `Whole.infix_insertLines_iff`, `Whole.infix_popup_iff`: Where it is in a page with a fragment.
* `Whole.infix_add_iff`, `Whole.infix_wireWith_iff`: A step, and steps in a row.
* `hasFragment_add_iff`, `hasFragment_wireWith_iff`: The same for guards.
-/

namespace HelpWiring

/-- A text that no fragment tears, and none completes. -/
structure Whole (piece : Text) : Prop where
  ne_nil : piece ≠ []
  notMem_feed : '\n' ∉ piece
  unindented : piece.head? ≠ some ' '
  apart : ∀ {a b : Text}, closesPage b = true → piece <:+: a ++ b → piece <:+: a ∨ piece <:+: b

theorem whole_of_isSolid {piece : Text} (hne : piece ≠ []) (hsolid : piece.isSolid = true) :
    Whole piece where
  ne_nil := hne
  notMem_feed := Text.notMem_of_isSolid hsolid (by decide)
  unindented h := Text.notMem_of_isSolid hsolid (by decide) (List.mem_of_head? h)
  apart hb h := by
    rcases blank_of_closesPage hb with ⟨c, rest, rfl, hc⟩
    exact ((Text.infix_append_cons_iff hne (Text.notMem_of_isSolid hsolid hc)).1 h).imp_right
      fun h => h.trans (List.suffix_cons c rest).isInfix

/-- What a guard looks for stays whole. -/
theorem whole_sign {kind : Kind} {tag sign : Text} (ht : kind = .imports ∨ tag.isSolid = true)
    (h : sign ∈ kind.signs tag) : Whole sign :=
  whole_of_isSolid (sign_ne_nil h) (isSolid_sign ht h)

namespace Whole

variable {piece : Text}

/-- It is in a page with new lines if it was in the page or is in what was put in. -/
theorem infix_insertLines_iff (h : Whole piece) (index indent : Nat) (fragment page : Text) :
    piece <:+: insertLines index indent fragment page
      ↔ piece <:+: page ∨ piece <:+: fragment := by
  have hindent : ∀ row, piece <:+: indented indent row ↔ piece <:+: row := by
    cases piece with
    | nil => exact absurd rfl h.ne_nil
    | cons c r =>
        have hc : c ∉ List.replicate indent ' ' := fun hmem =>
          h.unindented (congrArg some (List.eq_of_mem_replicate hmem))
        exact fun row => Text.cons_infix_append_iff hc
  have hrows : (∃ row ∈ fragment.lines.map (indented indent), piece <:+: row)
      ↔ piece <:+: fragment := by
    rw [Text.infix_iff_lines h.ne_nil h.notMem_feed]
    simp only [List.mem_map, exists_exists_and_eq_and, hindent]
  have hpage := Text.infix_iff_lines (t := page) h.ne_nil h.notMem_feed
  rw [← List.take_append_drop index page.lines] at hpage
  rw [Text.infix_iff_lines h.ne_nil h.notMem_feed, insertLines_lines, hpage, ← hrows]
  simp only [List.mem_append, or_and_right, exists_or]
  rw [or_comm (b := ∃ line ∈ page.lines.drop index, _), or_assoc]

/-- It is in a page with the popup element if it was in the page or is in the element. -/
theorem infix_popup_iff (h : Whole piece) {a b : Text} (hb : closesPage b = true) (tag : Text) :
    piece <:+: a ++ (popupElement tag ++ b) ↔ piece <:+: a ++ b ∨ piece <:+: popupElement tag := by
  -- the element has a line feed at either end, and the text has none
  have hends : popupElement tag = '\n' :: (Text.unlines (popupLines tag) ++ ['\n']) := by
    have hlines : popupLines tag ≠ [] := List.cons_ne_nil _ _
    rw [popupElement_eq_rows, Text.rows_eq_unlines hlines]
  have hinside : piece <:+: popupElement tag ↔ piece <:+: Text.unlines (popupLines tag) := by
    have hnil : ¬ piece <:+: [] := fun hinfix => h.ne_nil (List.infix_nil.1 hinfix)
    rw [hends, ← List.nil_append ('\n' :: _), Text.infix_append_cons_iff h.ne_nil h.notMem_feed,
      or_iff_right hnil, Text.infix_append_cons_iff h.ne_nil h.notMem_feed, or_iff_left hnil]
  have hpage : piece <:+: a ++ b ↔ piece <:+: a ∨ piece <:+: b :=
    ⟨h.apart hb, fun hinfix =>
      hinfix.elim List.infix_append_of_infix_left List.infix_append_of_infix_right⟩
  rw [hinside, hpage, hends, List.cons_append, List.append_assoc,
    Text.infix_append_cons_iff h.ne_nil h.notMem_feed, List.cons_append, List.nil_append,
    Text.infix_append_cons_iff h.ne_nil h.notMem_feed, or_assoc, or_comm (b := piece <:+: b)]

/-- A step puts it in with its fragment, and in no other way. -/
theorem infix_add_iff (h : Whole piece) (page tag : Text) (kind : Kind) :
    piece <:+: (Page.add page kind tag).1
      ↔ piece <:+: page ∨ (Page.add page kind tag).2 = .added ∧ piece <:+: kind.text tag := by
  rcases Page.add_cases page kind tag
    with ⟨-, hadd⟩ | ⟨-, reason, -, hadd⟩ | ⟨-, slot, new, hslot, hnew, hadd⟩
  · simp only [hadd, reduceCtorEq, false_and, or_false]
  · simp only [hadd, reduceCtorEq, false_and, or_false]
  · -- the imports and the hook call go in as lines, the popup element does not
    have hlines : ∀ index indent, slot = .line index indent →
        (piece <:+: new ↔ piece <:+: page ∨ piece <:+: kind.text tag) := by
      rintro index indent rfl
      obtain rfl : insertLines index indent (kind.text tag) page = new := Option.some.inj hnew
      exact h.infix_insertLines_iff index indent _ page
    simp only [hadd, true_and]
    cases kind with
    | imports =>
        rcases importSlot_eq_ok hslot with ⟨i, hi, -⟩
        exact hlines _ _ hi
    | hook =>
        rcases hookSlot_eq_ok hslot with ⟨index, indent, hline⟩
        exact hlines _ _ hline
    | component =>
        rcases popupSlot_eq_ok hslot with ⟨a, b, rfl, rfl, hb⟩
        obtain rfl : a ++ (popupElement tag ++ b) = new :=
          Option.some.inj ((insertAfter_append _ a b).symm.trans hnew)
        exact h.infix_popup_iff hb tag

end Whole

namespace Page

/-- What the first step adds and what the others add. -/
theorem exists_added_cons {page tag : Text} {kind : Kind} {more : List Kind} {p : Kind → Prop} :
    (∃ k, ⟨k, .added⟩ ∈ (wireWith page tag (kind :: more)).steps ∧ p k)
      ↔ (add page kind tag).2 = .added ∧ p kind
        ∨ ∃ k, ⟨k, .added⟩ ∈ (wireWith (add page kind tag).1 tag more).steps ∧ p k := by
  have hfirst : (∃ k, Step.mk k .added = ⟨kind, (add page kind tag).2⟩ ∧ p k)
      ↔ (add page kind tag).2 = .added ∧ p kind := by
    simp only [Step.mk.injEq, and_assoc, exists_eq_left]
    exact and_congr_left fun _ => eq_comm
  simp only [wireWith, List.mem_cons, or_and_right, exists_or, hfirst]

end Page

/-- The same for steps in a row. -/
theorem Whole.infix_wireWith_iff {piece : Text} (h : Whole piece) (page tag : Text)
    (kinds : List Kind) : piece <:+: (Page.wireWith page tag kinds).content
      ↔ piece <:+: page ∨ ∃ kind, ⟨kind, .added⟩ ∈ (Page.wireWith page tag kinds).steps
        ∧ piece <:+: kind.text tag := by
  induction kinds generalizing page with
  | nil => simp only [Page.wireWith, List.not_mem_nil, false_and, exists_false, or_false]
  | cons kind more ih =>
      rw [Page.exists_added_cons, Page.wireWith, ih, h.infix_add_iff, or_assoc]

namespace Page

variable {kind : Kind} {other : Text}

/-- A guard says yes after a step if it did before, or if it says yes to what was put in. -/
theorem hasFragment_add_iff (ht : kind = .imports ∨ other.isSolid = true) (page tag : Text)
    (k : Kind) : hasFragment (add page k tag).1 kind other = true
      ↔ hasFragment page kind other = true
        ∨ (add page k tag).2 = .added ∧ hasFragment (k.text tag) kind other = true := by
  simp only [hasFragment_iff]
  constructor
  · rintro ⟨sign, hsign, h⟩
    rcases ((whole_sign ht hsign).infix_add_iff page tag k).1 h with h | ⟨hadded, h⟩
    · exact Or.inl ⟨sign, hsign, h⟩
    · exact Or.inr ⟨hadded, sign, hsign, h⟩
  · rintro (⟨sign, hsign, h⟩ | ⟨hadded, sign, hsign, h⟩)
    · exact ⟨sign, hsign, ((whole_sign ht hsign).infix_add_iff page tag k).2 (Or.inl h)⟩
    · exact ⟨sign, hsign, ((whole_sign ht hsign).infix_add_iff page tag k).2 (Or.inr ⟨hadded, h⟩)⟩

theorem hasFragment_wireWith_iff (ht : kind = .imports ∨ other.isSolid = true) (page tag : Text)
    (kinds : List Kind) : hasFragment (wireWith page tag kinds).content kind other = true
      ↔ hasFragment page kind other = true
        ∨ ∃ k, ⟨k, .added⟩ ∈ (wireWith page tag kinds).steps
          ∧ hasFragment (k.text tag) kind other = true := by
  induction kinds generalizing page with
  | nil => simp only [wireWith, List.not_mem_nil, false_and, exists_false, or_false]
  | cons k more ih => rw [exists_added_cons, wireWith, ih, hasFragment_add_iff ht, or_assoc]

end Page

end HelpWiring
