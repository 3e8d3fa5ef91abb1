import HelpWiring.Proofs.Page.Pieces
import HelpWiring.Proofs.Page.WellShaped

/-!
# Tags of Other Pages

A page can hold the help popups of several pages, under different tags. Wiring
it for one tag does not change what the guards say of another, however much
alike the two are: the one may be the start of the other, or its end, or a part
of it.

The tag stands in quotes in the hook call and in the popup element, and there
are no other quotes in these two. What a guard looks for is a tag in quotes as
well. So where it occurs in a fragment, its two quotes are those of the
fragment, and what is between them is the same tag.

## Theorems

* `Quoting.tag_eq_of_infix`: A quoted tag in another is the same tag.
* `not_hasFragment_text`: No fragment is taken for one with another tag.
* `hasFragment_wire_other`: The guards of other tags see no difference.
-/

namespace HelpWiring

/-- A text with a quoted tag, inside another that has its quotes around a tag only, has the
    same tag. -/
theorem Quoting.tag_eq_of_infix {q q' : Quoting} {a b : Text} (hfront : q'.quote ∉ q.front)
    (ha : q'.quote ∉ a) (hback : q'.quote ∉ q.back) (h : q'.around b <:+: q.around a) : b = a := by
  rcases q' with ⟨front', quote, back'⟩
  rcases h with ⟨x, y, h⟩
  have hparts : (x ++ front') ++ quote :: (b ++ quote :: (back' ++ y)) = q.around a := by
    rw [← h, around]
    simp only [List.append_assoc, List.cons_append]
  by_cases hq : q.quote = quote
  · -- both texts have the quote twice, so it is nowhere else
    rw [around, hq] at hparts
    have hcount := congrArg (List.count quote) hparts
    simp only [List.count_append, List.count_cons_self, List.count_eq_zero.2 hfront,
      List.count_eq_zero.2 ha, List.count_eq_zero.2 hback] at hcount
    have hstart : quote ∉ x ++ front' := by
      rw [← List.count_eq_zero, List.count_append]
      omega
    have hmiddle : quote ∉ b := by
      rw [← List.count_eq_zero]
      omega
    have hcut := congrArg (Text.cut quote) hparts
    rw [Text.cut_append_cons hstart, Text.cut_append_cons hmiddle, Text.cut_append_cons hfront,
      Text.cut_append_cons ha] at hcut
    exact (List.cons.inj (List.cons.inj hcut).2).1
  · -- the quote is not in the other text at all
    exfalso
    have hmem : quote ∈ q.around a := hparts ▸ List.mem_append_right _ List.mem_cons_self
    simp only [around, List.mem_append, List.mem_cons] at hmem
    rcases hmem with hmem | hmem | hmem | hmem | hmem
    · exact hfront hmem
    · exact hq hmem.symm
    · exact ha hmem
    · exact hq hmem.symm
    · exact hback hmem

/-- What the guards of the hook call and of the popup element look for is a tag in quotes. -/
theorem exists_quoting_of_mem_signs {kind : Kind} (hkind : kind ≠ .imports) {tag sign : Text}
    (h : sign ∈ kind.signs tag) :
    ∃ q : Quoting, (q.quote = '\'' ∨ q.quote = '"') ∧ sign = q.around tag := by
  cases kind with
  | imports => exact absurd rfl hkind
  | hook =>
      rcases List.mem_cons.1 h with rfl | h
      · exact ⟨⟨"useHelpPopup(".toList, '\'', [')']⟩, Or.inl rfl, rfl⟩
      · exact ⟨⟨"useHelpPopup(".toList, '"', [')']⟩, Or.inr rfl, List.mem_singleton.1 h⟩
  | component =>
      rcases List.mem_cons.1 h with rfl | h
      · exact ⟨⟨"pageKey=".toList, '"', []⟩, Or.inr rfl, rfl⟩
      · exact ⟨⟨"pageKey=".toList, '\'', []⟩, Or.inl rfl, List.mem_singleton.1 h⟩

/-- A fragment has no quotes but those of its tag. -/
theorem Kind.notMem_quoting {kind : Kind} {q : Quoting} (h : kind.quoting? = some q) {quote : Char}
    (hquote : quote = '\'' ∨ quote = '"') : quote ∉ q.front ∧ quote ∉ q.back := by
  cases kind with
  | imports => cases h
  | hook =>
      obtain rfl := Option.some.inj h
      rcases hquote with rfl | rfl <;> decide
  | component =>
      obtain rfl := Option.some.inj h
      rcases hquote with rfl | rfl <;> decide

section

variable {tag other : Text} {kind : Kind}

/-- No fragment is taken for a hook call or a popup element with another tag. -/
theorem not_hasFragment_text (hquotes : '\'' ∉ tag ∧ '"' ∉ tag) (hne : tag ≠ other)
    (hkind : kind ≠ .imports) (k : Kind) : hasFragment (k.text tag) kind other = false := by
  by_cases himports : k = .imports
  · subst himports
    exact not_hasFragment_importLines hkind other
  · rw [hasFragment_eq_false_iff]
    intro sign hsign h
    rcases Kind.exists_quoting himports with ⟨q, hq⟩
    rcases exists_quoting_of_mem_signs hkind hsign with ⟨q', hquote, rfl⟩
    rcases Kind.notMem_quoting hq hquote with ⟨hfront, hback⟩
    have htag : q'.quote ∉ tag := by
      rcases hquote with hquote | hquote
      · exact hquote ▸ hquotes.1
      · exact hquote ▸ hquotes.2
    rw [Kind.text_eq_around hq] at h
    exact hne (Quoting.tag_eq_of_infix hfront htag hback h).symm

/-- Wiring a page for one tag does not change whether it has the hook call or the popup element
    of another. -/
theorem Page.hasFragment_wire_other (page : Text) (hother : other.isSolid = true)
    (hquotes : '\'' ∉ tag ∧ '"' ∉ tag) (hne : tag ≠ other) (hkind : kind ≠ .imports)
    (wanted : Selection) :
    hasFragment (wire page tag wanted).content kind other = hasFragment page kind other := by
  rw [Bool.eq_iff_iff, wire, hasFragment_wireWith_iff (Or.inr hother)]
  refine or_iff_left ?_
  rintro ⟨k, -, h⟩
  rw [not_hasFragment_text hquotes hne hkind] at h
  exact Bool.false_ne_true h

end

/-- Of two tags, the one is the start of the other. -/
theorem Page.hasFragment_wire_other_prefix :
    Text.isSolid "home".toList = true ∧ ('\'' ∉ "homes".toList ∧ '"' ∉ "homes".toList)
    ∧ "homes".toList ≠ "home".toList ∧ Kind.hook ≠ .imports
    ∧ hasFragment (wire plainPage "homes".toList .all).content .hook "home".toList
      = hasFragment plainPage .hook "home".toList := by
  have hsolid : Text.isSolid "home".toList = true := by decide
  have hquotes : '\'' ∉ "homes".toList ∧ '"' ∉ "homes".toList := by decide
  have hne : "homes".toList ≠ "home".toList := by decide
  have hkind : Kind.hook ≠ .imports := by decide
  exact ⟨hsolid, hquotes, hne, hkind,
    hasFragment_wire_other plainPage hsolid hquotes hne hkind .all⟩

end HelpWiring
