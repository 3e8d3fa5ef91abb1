import HelpWiring.Proofs.Page.Pieces
import HelpWiring.Proofs.Page.Steps
import HelpWiring.Proofs.Page.WellShaped

/-!
# Imports Above the Hook Site

The imports come before the hook call, and they bring two lines. Above the page
function they push it down together with its hook site, and below the hook site
they are out of the way. So the hook call goes in front of the same line as it
would without them. Between the two they come in only if there is an import line
inside the page function. Then the site is two lines further away from the line
that opens the function, and if it was one of the last two lines in reach, it is
out of reach (`hook_with_imports`).

## Main definitions

* `Gained`: Lines with the import lines among them, or without.
* `Page.SamePlace`: The hook call is in front of the same line in two texts.
* `Page.PushedOut`: The imports push the hook site out of reach.

## Theorems

* `hookSlot_below_imports`: The hook site after the imports, for every place of their line.
* `add_hook_lines`: The lines of a page with the hook call.
* `hook_with_imports`: The step of the hook call with and without the imports.
* `pushedOut_farPage`: A page in which the hook site gets out of reach.
-/

namespace HelpWiring

/-- Lines with the import lines among them, or without. -/
def Gained (lines lines' : List Text) : Prop :=
  lines' = lines ∨ ∃ x y, lines = x ++ y ∧ lines' = x ++ (importLines.lines ++ y)

namespace Page

/-- Two texts have the hook call in front of the same line of a page, behind as many spaces. All
    their other lines are those of the page, but for the import lines, which the second one may
    have above the hook call or below that line. -/
def SamePlace (page tag alone both : Text) : Prop :=
  ∃ above line below indent above' below', page.lines = above ++ line :: below
    ∧ alone.lines = above ++ indented indent (hookLine tag) :: line :: below
    ∧ both.lines = above' ++ indented indent (hookLine tag) :: line :: below'
    ∧ (Gained above above' ∧ below' = below ∨ above' = above ∧ Gained below below')

/-- The imports and the hook call are both missing, the imports go in between the line that opens
    the page function and its hook site, and this is one of the last two lines in reach. -/
def PushedOut (page tag : Text) : Prop :=
  hasFragment page .imports tag = false ∧ hasFragment page .hook tag = false
    ∧ ∃ start index line i, HookSite page start index line
      ∧ page.lines.findIdx? isImportLine = some i
      ∧ start ≤ i ∧ i < index ∧ start + hookReach ≤ index + importLines.lines.length

section

variable {page tag : Text}

/-- The hook site after the imports: where it was if they came in below it, and otherwise below
    them, unless it was pushed out of reach. -/
theorem hookSlot_below_imports {start index i : Nat} {line : Text}
    (hno : hasFragment page .imports tag = false) (h : HookSite page start index line)
    (hi : page.lines.findIdx? isImportLine = some i) :
    hookSlot (put page tag .imports) =
      if index ≤ i then .ok (.line index line.indent)
      else if start ≤ i ∧ start + hookReach ≤ index + importLines.lines.length
        then .error .noHookSite
        else .ok (.line (index + importLines.lines.length) line.indent) := by
  have hpage := (List.take_append_drop (i + 1) page.lines).symm
  have hnew := lines_put_imports hno hi
  have hslot : hookSlot page = .ok (.line index line.indent) :=
    hookSlot_eq_ok_iff.2 ⟨start, index, line, h, rfl⟩
  have hlow := h.low
  have hfront : (page.lines.take (i + 1)).length = i + 1 := by
    have hlt := (List.findIdx?_eq_some_iff_getElem.1 hi).1
    rw [List.length_take]
    omega
  -- the import lines come in below the hook site, between it and the page function, or above both
  by_cases hbelow : index ≤ i
  · rw [if_pos hbelow]
    exact hookSlot_of_lines hpage hnew hslot (by omega)
  · rw [if_neg hbelow]
    by_cases hinside : start ≤ i
    · rw [hookSlot_insert_inside hpage hnew quiet_importLines h (by omega) (by omega)]
      by_cases hreach : index + importLines.lines.length < start + hookReach
      · rw [if_pos hreach, if_neg (by omega)]
      · rw [if_neg hreach, if_pos ⟨hinside, by omega⟩]
    · rw [if_neg fun hpushed => hinside hpushed.1]
      exact hookSlot_insert hpage hnew (fun l hl => (quiet_importLines l hl).1) h.opened (by omega) hslot

/-- The hook call as a line between the lines of a page. -/
theorem add_hook_lines (ht : tag.isSolid = true) {above below : List Text} {indent : Nat}
    (hpage : page.lines = above ++ below) (hno : hasFragment page .hook tag = false)
    (hslot : hookSlot page = .ok (.line above.length indent)) :
    (add page .hook tag).2 = .added
      ∧ (put page tag .hook).lines = above ++ indented indent (hookLine tag) :: below := by
  have hfeed : '\n' ∉ tag := Text.notMem_of_isSolid ht (by decide)
  have hline : (hookLine tag).lines = [hookLine tag] := Text.cut_of_notMem (notMem_hookLine hfeed)
  have hadd := add_of_slot hno hslot (congrArg some rfl)
  refine ⟨congrArg Prod.snd hadd, ?_⟩
  rw [put, hadd, insertLines_lines, Kind.text, hline, hpage, List.take_left, List.drop_left]
  rfl

end

section

variable {above : List Text} {i : Nat} (line : Text) (below : List Text)

/-- Import lines that come in under a line or further down leave it where it is. -/
theorem gained_below (h : above.length ≤ i) : ∃ below', Gained below below'
    ∧ (above ++ line :: below).take (i + 1)
        ++ (importLines.lines ++ (above ++ line :: below).drop (i + 1))
      = above ++ line :: below' := by
  obtain ⟨k, rfl⟩ := Nat.exists_eq_add_of_le h
  refine ⟨below.take k ++ (importLines.lines ++ below.drop k),
    Or.inr ⟨_, _, (List.take_append_drop k below).symm, rfl⟩, ?_⟩
  rw [Nat.add_assoc, List.take_length_add_append, List.drop_length_add_append,
    List.take_succ_cons, List.drop_succ_cons, List.append_assoc, List.cons_append]

/-- Those that come in above it push it down. -/
theorem gained_above (h : i < above.length) : ∃ above', Gained above above'
    ∧ above'.length = above.length + importLines.lines.length
    ∧ (above ++ line :: below).take (i + 1)
        ++ (importLines.lines ++ (above ++ line :: below).drop (i + 1))
      = above' ++ line :: below := by
  refine ⟨above.take (i + 1) ++ (importLines.lines ++ above.drop (i + 1)),
    Or.inr ⟨_, _, (List.take_append_drop (i + 1) above).symm, rfl⟩, ?_, ?_⟩
  · simp only [List.length_append, List.length_take, List.length_drop]
    omega
  · rw [List.take_append_of_le_length h, List.drop_append_of_le_length h]
    simp only [List.append_assoc]

end

section

variable {page tag : Text}

/-- The import lines push the hook site out of reach, so the hook call does not go in. -/
theorem hook_of_pushedOut (ht : tag.isSolid = true) (h : PushedOut page tag) :
    (add page .hook tag).2 = .added
      ∧ (add (put page tag .imports) .hook tag).2 = .anchorNotFound .noHookSite := by
  rcases h with ⟨himports, hno, start, index, line, i, hsite, hi, hstart, hindex, hreach⟩
  have hslot : hookSlot page = .ok (.line index line.indent) :=
    hookSlot_eq_ok_iff.2 ⟨start, index, line, hsite, rfl⟩
  have hguard := (hasFragment_put_of_ne ht .hook .imports (by decide) (by decide) page).trans hno
  have hnew := hookSlot_below_imports himports hsite hi
  rw [if_neg (by omega), if_pos ⟨hstart, hreach⟩] at hnew
  rw [add_of_slot hno hslot (congrArg some rfl), add_of_no_slot hguard hnew]
  exact ⟨rfl, rfl⟩

/-- Otherwise the hook site is the same line as before, with the import lines above or below it. -/
theorem exists_site_put_imports (h : ¬ PushedOut page tag) {start : Nat} {line : Text}
    {above below : List Text} (hno : hasFragment page .hook tag = false)
    (hsite : HookSite page start above.length line) (hlines : page.lines = above ++ line :: below) :
    ∃ above' below', (put page tag .imports).lines = above' ++ line :: below'
      ∧ hookSlot (put page tag .imports) = .ok (.line above'.length line.indent)
      ∧ (Gained above above' ∧ below' = below ∨ above' = above ∧ Gained below below') := by
  by_cases himports : (add page .imports tag).2 = .added
  · rcases added_inversion (Prod.ext rfl himports) with ⟨hfree, slot, hfound, -⟩
    rcases importSlot_eq_ok hfound with ⟨i, -, hi⟩
    have hnew := lines_put_imports hfree hi
    have hslot := hookSlot_below_imports hfree hsite hi
    rw [hlines] at hnew
    by_cases hbelow : above.length ≤ i
    · rcases gained_below line below hbelow with ⟨below', hgained, heq⟩
      rw [if_pos hbelow] at hslot
      exact ⟨above, below', hnew.trans heq, hslot, Or.inr ⟨rfl, hgained⟩⟩
    · have habove : i < above.length := Nat.lt_of_not_le hbelow
      have hreach : ¬ (start ≤ i ∧ start + hookReach ≤ above.length + importLines.lines.length) :=
        fun hout => h ⟨hfree, hno, start, _, line, i, hsite, hi, hout.1, habove, hout.2⟩
      rcases gained_above line below habove with ⟨above', hgained, hlength, heq⟩
      rw [if_neg hbelow, if_neg hreach, ← hlength] at hslot
      exact ⟨above', below, hnew.trans heq, hslot, Or.inl ⟨hgained, rfl⟩⟩
  · rw [put_of_not_added himports]
    exact ⟨above, below, hlines, hookSlot_eq_ok_iff.2 ⟨start, _, line, hsite, rfl⟩,
      Or.inl ⟨Or.inl rfl, rfl⟩⟩

/-- So the step of the hook call comes out the same, and the call goes in front of that line. -/
theorem hook_of_not_pushedOut (ht : tag.isSolid = true) (h : ¬ PushedOut page tag) :
    (add (put page tag .imports) .hook tag).2 = (add page .hook tag).2
      ∧ ((add page .hook tag).2 = .added →
        SamePlace page tag (put page tag .hook) (put (put page tag .imports) tag .hook)) := by
  have hguard := hasFragment_put_of_ne ht .hook .imports (by decide) (by decide) page
  rcases add_cases page .hook tag
    with ⟨hhas, hadd⟩ | ⟨hno, reason, hslot, hadd⟩ | ⟨hno, slot, new, hslot, -, hadd⟩
  · rw [add_of_hasFragment (hguard.trans hhas), hadd]
    exact ⟨rfl, fun hadded => nomatch hadded⟩
  · rw [add_of_no_slot (hguard.trans hno) (findSlot_hook_imports hslot), hadd]
    exact ⟨rfl, fun hadded => nomatch hadded⟩
  · rcases hookSite_of_hookSlot hslot with ⟨start, index, line, hsite, rfl⟩
    rcases hsite.exists_lines with ⟨above, below, hlines, rfl⟩
    rcases exists_site_put_imports h hno hsite hlines with ⟨above', below', hlines', hslot', hgained⟩
    -- the same row above the same line, in the page and in the text with the imports
    rcases add_hook_lines ht hlines hno hslot with ⟨hadded, halone⟩
    rcases add_hook_lines ht hlines' (hguard.trans hno) hslot' with ⟨hadded', hboth⟩
    exact ⟨hadded'.trans hadded.symm, fun _ =>
      ⟨above, line, below, line.indent, above', below', hlines, halone, hboth, hgained⟩⟩

/-- The step of the hook call comes out the same with the imports as without them, and the call
    goes in front of the same line, unless the imports push that line out of reach. -/
theorem hook_with_imports (ht : tag.isSolid = true) :
    (PushedOut page tag →
      ⟨.hook, .added⟩ ∈ (wire page tag (.ofKinds [.hook])).steps
      ∧ ⟨.hook, .anchorNotFound .noHookSite⟩ ∈ (wire page tag (.ofKinds [.imports, .hook])).steps)
    ∧ (¬ PushedOut page tag →
      (∀ status, ⟨.hook, status⟩ ∈ (wire page tag (.ofKinds [.imports, .hook])).steps
        ↔ ⟨.hook, status⟩ ∈ (wire page tag (.ofKinds [.hook])).steps)
      ∧ (⟨.hook, .added⟩ ∈ (wire page tag (.ofKinds [.hook])).steps →
        SamePlace page tag (wire page tag (.ofKinds [.hook])).content
          (wire page tag (.ofKinds [.imports, .hook])).content)) := by
  have halone : ∀ status, ⟨.hook, status⟩ ∈ (wire page tag (.ofKinds [.hook])).steps
      ↔ (add page .hook tag).2 = status := by
    intro status
    have hsteps : (wire page tag (.ofKinds [.hook])).steps = [⟨.hook, (add page .hook tag).2⟩] := rfl
    rw [hsteps, List.mem_singleton, Step.mk.injEq, and_iff_right rfl, eq_comm]
  have hboth : ∀ status, ⟨.hook, status⟩ ∈ (wire page tag (.ofKinds [.imports, .hook])).steps
      ↔ (add (put page tag .imports) .hook tag).2 = status := by
    intro status
    have hsteps : (wire page tag (.ofKinds [.imports, .hook])).steps
        = [⟨.imports, (add page .imports tag).2⟩,
          ⟨.hook, (add (put page tag .imports) .hook tag).2⟩] := rfl
    rw [hsteps, List.mem_cons, List.mem_singleton, Step.mk.injEq, Step.mk.injEq,
      or_iff_right fun hkind => Kind.noConfusion hkind.1, and_iff_right rfl, eq_comm]
  refine ⟨fun h => ?_, fun h => ?_⟩
  · rw [halone, hboth]
    exact hook_of_pushedOut ht h
  · rcases hook_of_not_pushedOut ht h with ⟨hstatus, hplace⟩
    refine ⟨fun status => ?_, fun hadded => hplace ((halone _).1 hadded)⟩
    rw [halone, hboth, hstatus]

end

/-- A page whose only import line is inside the page function. The hook site is the last line but
    one in reach. -/
def farPage : Text :=
  "export function APage() \x7b\nimport a".toList
    ++ (List.replicate 17 '\n' ++ "  const [x] = f();\n\x7d\n".toList)

theorem pushedOut_farPage : PushedOut farPage "home".toList := by
  have hslot : hookSlot farPage = .ok (.line 18 2) := by decide +kernel
  have hopened : pageLine farPage = some 0 := by decide +kernel
  rcases hookSite_of_line hslot with ⟨start, line, hsite, -⟩
  obtain rfl : start = 0 := Option.some.inj (hsite.opened.symm.trans hopened)
  exact ⟨by decide +kernel, by decide +kernel, 0, 18, line, 1, hsite, by decide +kernel, by decide,
    by decide, by decide⟩

/-- The imports of `plainPage` go in above the page function. -/
theorem not_pushedOut_plainPage : ¬ PushedOut plainPage "home".toList := by
  have hopened : pageLine plainPage = some 1 := by decide +kernel
  have hline : plainPage.lines.findIdx? isImportLine = some 0 := by decide +kernel
  rintro ⟨-, -, start, index, line, i, hsite, hi, hstart, -, -⟩
  obtain rfl : start = 1 := Option.some.inj (hsite.opened.symm.trans hopened)
  obtain rfl : i = 0 := Option.some.inj (hi.symm.trans hline)
  omega

theorem hook_with_imports_plainPage :
    Text.isSolid "home".toList = true
    ∧ (PushedOut farPage "home".toList
      ∧ ⟨.hook, .added⟩ ∈ (wire farPage "home".toList (.ofKinds [.hook])).steps
      ∧ ⟨.hook, .anchorNotFound .noHookSite⟩
        ∈ (wire farPage "home".toList (.ofKinds [.imports, .hook])).steps)
    ∧ ¬ PushedOut plainPage "home".toList
    ∧ SamePlace plainPage "home".toList (wire plainPage "home".toList (.ofKinds [.hook])).content
      (wire plainPage "home".toList (.ofKinds [.imports, .hook])).content := by
  have ht : Text.isSolid "home".toList = true := by decide
  have hadded : ⟨.hook, .added⟩ ∈ (wire plainPage "home".toList (.ofKinds [.hook])).steps := by
    decide +kernel
  exact ⟨ht, ⟨pushedOut_farPage, (hook_with_imports ht).1 pushedOut_farPage⟩,
    not_pushedOut_plainPage, ((hook_with_imports ht).2 not_pushedOut_plainPage).2 hadded⟩

/-- The hook call goes into this page, but not once the imports are there. -/
theorem hook_lost_to_imports :
    Text.isSolid "home".toList = true
    ∧ ⟨.hook, .added⟩ ∈ (wire farPage "home".toList (.ofKinds [.hook])).steps
    ∧ ⟨.hook, .added⟩ ∉ (wire farPage "home".toList (.ofKinds [.imports, .hook])).steps :=
  ⟨by decide, by decide +kernel, by decide +kernel⟩

end Page

end HelpWiring
