import HelpWiring.Proofs.Page.Again
import HelpWiring.Proofs.Page.Pieces
import HelpWiring.Proofs.Page.Placement

/-!
# Steps in a Row

What one step leaves behind for the next. A step that adds nothing leaves the
text as it is, and no step adds its fragment twice. So of all the steps of a run
only those count that add something, and a run that wants the popup element is
a run without it and one more step.

The imports and the hook call go in as lines. The imports come in under the
first import line and bring no hook site along, and the hook call is a row in
front of its site.

## Main definitions

* `Page.put`: The text after a step.
* `Page.beforePopup`: A run without its popup element.

## Theorems

* `put_of_not_added`, `put_put`: Steps that leave the text as it is.
* `hasFragment_put_of_ne`: Steps that leave the guard of another fragment as it is.
* `added_iff`: What a step added, by the guard.
* `lines_put_imports`: The lines of a page with the imports.
* `findSlot_hook_imports`: They bring no hook site along.
* `exists_rows_of_hook_added`: The hook call as a row.
* `wire_component`: A run that wants the popup element.
-/

namespace HelpWiring

namespace Page

/-- The text after the step for a fragment. -/
abbrev put (page tag : Text) (kind : Kind) : Text := (add page kind tag).1

section

variable {tag : Text}

theorem put_of_hasFragment {page : Text} {kind : Kind} (h : hasFragment page kind tag = true) :
    put page tag kind = page := by
  rw [put, add_of_hasFragment h]

theorem put_of_not_added {page : Text} {kind : Kind} (h : (add page kind tag).2 ≠ .added) :
    put page tag kind = page := by
  rcases add_cases page kind tag with ⟨-, hadd⟩ | ⟨-, _, -, hadd⟩ | ⟨-, _, _, -, -, hadd⟩
  · rw [put, hadd]
  · rw [put, hadd]
  · rw [hadd] at h
    exact absurd rfl h

/-- A step that adds nothing finds its fragment settled. -/
theorem settled_of_not_added (ht : tag.isSolid = true) {page : Text} {kind : Kind}
    (h : (add page kind tag).2 ≠ .added) :
    Settled page tag ⟨kind, (add page kind tag).2⟩ := by
  have hsettled : Settled (put page tag kind) tag ⟨kind, (add page kind tag).2⟩ :=
    settled_add ht kind
  rwa [put_of_not_added h] at hsettled

/-- No step adds its fragment twice. -/
theorem put_put (ht : tag.isSolid = true) (page : Text) (kind : Kind) :
    put (put page tag kind) tag kind = put page tag kind :=
  (settled_add ht kind).content_add

/-- Of the other two fragments, only that of the imports can be seen in the text of a fragment. -/
theorem not_hasFragment_text_of_ne (ht : tag.isSolid = true) {kind k : Kind}
    (hkind : kind ≠ .imports) (hne : k ≠ kind) : hasFragment (k.text tag) kind tag = false := by
  cases k with
  | imports => exact not_hasFragment_importLines hkind tag
  | hook =>
      cases kind with
      | imports => exact absurd rfl hkind
      | hook => exact absurd rfl hne
      | component =>
          rw [hasFragment_eq_false_iff]
          intro sign hsign h
          have hrow := hasFragment_eq_false_iff.1 (not_hasFragment_hookRow ht 0) sign hsign
          exact hrow (h.trans List.infix_append_left)
  | component =>
      cases kind with
      | imports => exact absurd rfl hkind
      | hook => exact not_hasFragment_popupElement ht
      | component => exact absurd rfl hne

/-- So a step changes nothing for the guards of the other two, but for that of the imports. -/
theorem hasFragment_put_of_ne (ht : tag.isSolid = true) (kind k : Kind) (hkind : kind ≠ .imports)
    (hne : k ≠ kind) (page : Text) :
    hasFragment (put page tag k) kind tag = hasFragment page kind tag := by
  rw [Bool.eq_iff_iff, put, hasFragment_add_iff (Or.inr ht),
    not_hasFragment_text_of_ne ht hkind hne]
  simp only [Bool.false_eq_true, and_false, or_false]

/-- What is there after a step and was not there before was added. -/
theorem added_iff (ht : tag.isSolid = true) {page : Text} {kind : Kind} :
    (add page kind tag).2 = .added
      ↔ hasFragment page kind tag = false ∧ hasFragment (put page tag kind) kind tag = true := by
  have htext : hasFragment (kind.text tag) kind tag = true := hasFragment_of_infix List.infix_rfl
  rw [put, hasFragment_add_iff (Or.inr ht), and_iff_left htext, ← Bool.not_eq_true]
  refine ⟨fun hadded => ⟨?_, Or.inr hadded⟩, fun h => h.2.resolve_left h.1⟩
  rw [Bool.not_eq_true]
  exact (added_inversion (Prod.ext rfl hadded)).1

/-- The import lines come in under the first import line of the page. -/
theorem lines_put_imports {page : Text} {i : Nat} (hno : hasFragment page .imports tag = false)
    (hi : page.lines.findIdx? isImportLine = some i) :
    (put page tag .imports).lines
      = page.lines.take (i + 1) ++ (importLines.lines ++ page.lines.drop (i + 1)) := by
  have hslot : findSlot page .imports = .ok (.line (i + 1) 0) := by
    rw [findSlot, importSlot, hi]
  rw [put, add_of_slot hno hslot (congrArg some rfl), insertLines_lines, Kind.text,
    unindented_importLines]

/-- The imports bring no hook site along. -/
theorem findSlot_hook_imports {page : Text} {reason : AnchorFault}
    (h : findSlot page .hook = .error reason) :
    findSlot (put page tag .imports) .hook = .error reason := by
  by_cases hadded : (add page .imports tag).2 = .added
  · rcases added_inversion (Prod.ext rfl hadded) with ⟨hno, slot, hslot, -⟩
    rcases importSlot_eq_ok hslot with ⟨i, -, hi⟩
    exact hookSlot_error_insert (List.take_append_drop (i + 1) page.lines).symm
      (lines_put_imports hno hi) quiet_importLines h
  · rwa [put_of_not_added hadded]

theorem Settled.put_imports (ht : tag.isSolid = true) {page : Text} {status : Status}
    (h : Settled page tag ⟨.hook, status⟩) :
    Settled (put page tag .imports) tag ⟨.hook, status⟩ := by
  rcases h with hhas | ⟨reason, hstatus, hslot⟩
  · exact Or.inl (hasFragment_add (Or.inr ht) hhas .imports tag)
  · exact Or.inr ⟨reason, hstatus, findSlot_hook_imports hslot⟩

/-- The hook call goes in as a row. -/
theorem exists_rows_of_hook_added {page : Text} (ht : '\n' ∉ tag)
    (h : (add page .hook tag).2 = .added) :
    ∃ lines indent below, (∀ line ∈ lines, '\n' ∉ line) ∧ page = Text.rows lines ++ below
      ∧ hookSlot (Text.rows lines ++ below) = .ok (.line lines.length indent)
      ∧ put page tag .hook = Text.rows lines ++ (hookRow indent tag ++ below) := by
  rcases added_inversion (Prod.ext rfl h) with ⟨hno, slot, hslot, -⟩
  rcases hookSite_of_hookSlot hslot with ⟨start, index, line, hsite, rfl⟩
  rcases Text.exists_rows (List.getElem?_eq_some_iff.1 hsite.here).1
    with ⟨lines, below, rfl, rfl, hlines⟩
  refine ⟨lines, line.indent, below, hlines, rfl, hslot, ?_⟩
  rw [put, add_rows hlines hno hslot, rows_hook ht]

end

section

variable {page tag : Text} {first : Selection}

/-- The steps of a full run. -/
theorem steps_wire_all (page tag : Text) : (wire page tag .all).steps
    = [⟨.imports, (add page .imports tag).2⟩, ⟨.hook, (add (put page tag .imports) .hook tag).2⟩,
      ⟨.component, (add (put (put page tag .imports) tag .hook) .component tag).2⟩] := rfl

theorem wireWith_concat (page tag : Text) (kinds : List Kind) (kind : Kind) :
    (wireWith page tag (kinds ++ [kind])).content
        = put (wireWith page tag kinds).content tag kind
      ∧ (wireWith page tag (kinds ++ [kind])).steps
        = (wireWith page tag kinds).steps
          ++ [⟨kind, (add (wireWith page tag kinds).content kind tag).2⟩] := by
  induction kinds generalizing page with
  | nil => exact ⟨rfl, rfl⟩
  | cons k ks ih =>
      rcases ih (add page k tag).1 with ⟨hcontent, hsteps⟩
      exact ⟨hcontent, congrArg (_ :: ·) hsteps⟩

/-- A run without its popup element. -/
def beforePopup (first : Selection) : Selection := { first with component := false }

/-- A run that wants the popup element comes to it last. -/
theorem wire_component (page tag : Text) (h : first.component = true) :
    (wire page tag first).content = put (wire page tag (beforePopup first)).content tag .component
      ∧ (wire page tag first).steps = (wire page tag (beforePopup first)).steps ++
        [⟨.component, (add (wire page tag (beforePopup first)).content .component tag).2⟩] := by
  have hkinds : first.kinds = (beforePopup first).kinds ++ [.component] := by
    rcases first with ⟨imports, hook, component⟩
    obtain rfl : component = true := h
    cases imports <;> cases hook <;> rfl
  rw [wire, hkinds]
  exact wireWith_concat page tag _ _

/-- What a run wanted is settled. -/
theorem exists_settled (page : Text) (ht : tag.isSolid = true) (wanted : Selection) {kind : Kind}
    (h : wanted.has kind = true) :
    ∃ status, Settled (wire page tag wanted).content tag ⟨kind, status⟩ := by
  have hkind : kind ∈ wanted.kinds := by
    rw [Selection.kinds, List.mem_filter]
    exact ⟨by cases kind <;> decide, h⟩
  rw [← steps_wire page tag wanted] at hkind
  rcases List.mem_map.1 hkind with ⟨⟨_, status⟩, hs, rfl⟩
  exact ⟨status, settled_wire page ht wanted _ hs⟩

/-- Only what is wanted has a step. -/
theorem has_of_mem_steps {kind : Kind} {status : Status}
    (h : ⟨kind, status⟩ ∈ (wire page tag first).steps) : first.has kind = true := by
  have hkind := List.mem_map_of_mem (f := Step.kind) h
  rw [steps_wire] at hkind
  exact (List.mem_filter.1 hkind).2

end

end Page

end HelpWiring
