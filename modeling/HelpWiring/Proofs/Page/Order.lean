import HelpWiring.Proofs.Page.Placement
import HelpWiring.Proofs.Page.Steps
import HelpWiring.Proofs.Page.Tail

/-!
# Hook Call and Popup Element in Order

The hook call declares what the popup element uses, so the one should be above
the other. They are not looked for together. The hook call goes into the page
function, and the popup element in front of the first tail in the text, whatever
function that is the tail of. If a function above the page function has a tail,
the popup element ends up there, above the hook call.

So the order is decided by the lines above the hook call. A tail in them is
found first. If there is none, the search comes to the hook call, and no tail
begins there or above it, because none goes on across its row. Then the popup
element is below (`popup_below_hook_iff`).

## Main definitions

* `Page.BothIn`: A full run, taken apart where the hook call and the popup element go in.

## Theorems

* `firstPlace_of_tail`, `firstPlace_of_no_tail`: The first tail, with harmless rows in the text.
* `exists_bothIn`: A full run that adds the two can be taken apart.
* `popup_below_hook_iff`: Which of the two comes first.
* `popup_above_hook`: A page where it is the popup element.
-/

namespace HelpWiring

section

variable {front back above below body : Text}

/-- A tail in the text above is found before anything else. -/
theorem firstPlace_of_tail (hfirst : Text.FirstPlace closesPage front back)
    (heq : front ++ back = above ++ below) (htail : (tailPlaces above).Nonempty) :
    front <+: above := by
  rw [tailPlaces_eq] at htail
  rcases htail with ⟨_, start, tail, rfl, -, htail⟩
  rw [List.append_assoc] at heq
  exact (hfirst.prefix_of_eq heq (closesPage_append htail below)).trans
    (List.prefix_append start tail)

/-- If there is none, and none in the harmless rows below it, the first tail is behind these. -/
theorem firstPlace_of_no_tail {lines : List Text} (hbody : Harmless ('\n' :: body))
    (hfirst : Text.FirstPlace closesPage front back)
    (heq : front ++ back = Text.rows lines ++ ((body ++ ['\n']) ++ below))
    (hnone : tailPlaces (Text.rows lines) = ∅) : Text.rows lines ++ body <+: front := by
  rw [tailPlaces_eq_empty_iff] at hnone
  refine (closed_above_or_below hbody hfirst.1 heq).resolve_left ?_
  rintro ⟨d, hrows, htail⟩
  rw [hnone _ ⟨front, hrows.symm⟩] at htail
  exact Bool.false_ne_true htail

end

namespace Page

/-- A full run, taken apart. The hook call goes in under `lines`, which are those of the text with
    the imports down to the hook site. The popup element goes in behind `front`, where the text
    with both has its first tail. -/
structure BothIn (page tag : Text) (lines : List Text) (indent : Nat)
    (below front back : Text) : Prop where
  oneLine : ∀ line ∈ lines, '\n' ∉ line
  imports : put page tag .imports = Text.rows lines ++ below
  site : hookSlot (Text.rows lines ++ below) = .ok (.line lines.length indent)
  hook : put (put page tag .imports) tag .hook = Text.rows lines ++ (hookRow indent tag ++ below)
  parted : front ++ back = Text.rows lines ++ (hookRow indent tag ++ below)
  tail : popupSlot (front ++ back) = .ok (.offset (octets front))
  content : (wire page tag .all).content = front ++ (popupElement tag ++ back)

section

variable {page tag : Text}

/-- A full run that adds the hook call and the popup element can be taken apart. -/
theorem exists_bothIn (ht : '\n' ∉ tag) (hhook : ⟨.hook, .added⟩ ∈ (wire page tag .all).steps)
    (hpopup : ⟨.component, .added⟩ ∈ (wire page tag .all).steps) :
    ∃ lines indent below front back, BothIn page tag lines indent below front back := by
  rw [steps_wire_all] at hhook hpopup
  simp only [List.mem_cons, Step.mk.injEq, reduceCtorEq, false_and, true_and, false_or, or_false,
    List.not_mem_nil] at hhook hpopup
  rcases exists_rows_of_hook_added ht hhook.symm with
    ⟨lines, indent, below, hlines, htext, hsite, hput⟩
  rcases added_inversion (Prod.ext rfl hpopup.symm) with ⟨hno, slot, hslot, -⟩
  rcases popupSlot_eq_ok hslot with ⟨front, back, hparts, rfl, -⟩
  refine ⟨lines, indent, below, front, back, hlines, htext, hsite, hput, ?_, ?_, ?_⟩
  · rw [← hparts, hput]
  · rw [← hparts]
    exact hslot
  · have hlast : (wire page tag .all).content
        = (add (put (put page tag .imports) tag .hook) .component tag).1 := rfl
    rw [hparts] at hno hslot
    rw [hlast, hparts, add_popup hno hslot]

/-- If a full run adds both, the hook call is above the popup element exactly if there is no tail
    in the lines above the hook call. Otherwise the element is above these lines' end, and so above
    the hook call. -/
theorem popup_below_hook_iff (ht : tag.isSolid = true)
    (hhook : ⟨.hook, .added⟩ ∈ (wire page tag .all).steps)
    (hpopup : ⟨.component, .added⟩ ∈ (wire page tag .all).steps) :
    ∃ lines indent below front back, BothIn page tag lines indent below front back
      ∧ (Text.rows lines ++ indented indent (hookLine tag) <+: front
        ↔ tailPlaces (Text.rows lines) = ∅)
      ∧ (front <+: Text.rows lines ↔ (tailPlaces (Text.rows lines)).Nonempty) := by
  rcases exists_bothIn (Text.notMem_of_isSolid ht (by decide)) hhook hpopup
    with ⟨lines, indent, below, front, back, h⟩
  have hfirst := popupSlot_append_iff.1 h.tail
  have hbelow : tailPlaces (Text.rows lines) = ∅ →
      Text.rows lines ++ indented indent (hookLine tag) <+: front :=
    firstPlace_of_no_tail (harmless_hook ht indent) hfirst h.parted
  have habove : (tailPlaces (Text.rows lines)).Nonempty → front <+: Text.rows lines :=
    firstPlace_of_tail hfirst h.parted
  -- the element is not on both sides of the hook call
  have hexclusive : Text.rows lines ++ indented indent (hookLine tag) <+: front →
      ¬ front <+: Text.rows lines := by
    intro hlong hshort
    have hpos : 0 < (hookLine tag).length := by
      rw [hookLine_eq]
      exact Nat.succ_pos _
    have hle := (hlong.trans hshort).length_le
    rw [List.length_append, indented, List.length_append] at hle
    omega
  refine ⟨lines, indent, below, front, back, h, ⟨fun hlong => ?_, hbelow⟩,
    ⟨fun hshort => ?_, habove⟩⟩
  · rw [← Set.not_nonempty_iff_eq_empty]
    exact fun htail => hexclusive hlong (habove htail)
  · rw [Set.nonempty_iff_ne_empty]
    exact fun hnone => hexclusive (hbelow hnone) hshort

end

/-- A page with a function above the page function, and what closes a page at the end of each. -/
def helperPage : Text :=
  "import a\nfunction Row() \x7b\n  return (\n    <div>\n    </div>\n  );\n\x7d\n".toList
    ++ "export function APage() \x7b\n  const [x] = f();\n".toList
    ++ "  return (\n    <div>\n    </div>\n  );\n\x7d\n".toList

theorem steps_helperPage : (wire helperPage "home".toList .all).steps
    = [⟨.imports, .added⟩, ⟨.hook, .added⟩, ⟨.component, .added⟩] := by
  decide +kernel

theorem popup_below_hook_iff_helperPage :
    Text.isSolid "home".toList = true
    ∧ ⟨.hook, .added⟩ ∈ (wire helperPage "home".toList .all).steps
    ∧ ⟨.component, .added⟩ ∈ (wire helperPage "home".toList .all).steps
    ∧ ∃ lines indent below front back,
      BothIn helperPage "home".toList lines indent below front back
      ∧ (Text.rows lines ++ indented indent (hookLine "home".toList) <+: front
        ↔ tailPlaces (Text.rows lines) = ∅)
      ∧ (front <+: Text.rows lines ↔ (tailPlaces (Text.rows lines)).Nonempty) := by
  have ht : Text.isSolid "home".toList = true := by decide
  have hhook : ⟨.hook, .added⟩ ∈ (wire helperPage "home".toList .all).steps := by
    rw [steps_helperPage]
    decide
  have hpopup : ⟨.component, .added⟩ ∈ (wire helperPage "home".toList .all).steps := by
    rw [steps_helperPage]
    decide
  exact ⟨ht, hhook, hpopup, popup_below_hook_iff ht hhook hpopup⟩

/-- In this page the popup element ends up above the hook call, although both go in. -/
theorem popup_above_hook :
    Text.isSolid "home".toList = true
    ∧ ⟨.hook, .added⟩ ∈ (wire helperPage "home".toList .all).steps
    ∧ ⟨.component, .added⟩ ∈ (wire helperPage "home".toList .all).steps
    ∧ ¬ ∃ x y z, (wire helperPage "home".toList .all).content
      = x ++ (hookLine "home".toList ++ (y ++ (popupElement "home".toList ++ z))) := by
  have hsearch : Text.someSuffix
      (fun t => (hookLine "home".toList).isPrefixOf t && t.mentions (popupElement "home".toList))
      (wire helperPage "home".toList .all).content = false := by
    decide +kernel
  rw [steps_helperPage]
  refine ⟨by decide, by decide, by decide, ?_⟩
  rintro ⟨x, y, z, h⟩
  rw [h, ← Bool.not_eq_true, Text.someSuffix_iff] at hsearch
  refine hsearch ⟨_, List.suffix_append x _, ?_⟩
  rw [Bool.and_eq_true, List.isPrefixOf_iff_prefix, Text.mentions_iff]
  refine ⟨List.prefix_append _ _, ?_⟩
  rw [← List.append_assoc, ← List.append_assoc, List.append_assoc]
  exact List.infix_append' _ _ _

end Page

end HelpWiring
