import HelpWiring.Page.Wiring
import HelpWiring.Proofs.Text.Seam

/-!
# What a Step Puts In

A step of the wiring leaves the page alone or puts one block of text into it,
and it puts it in at a seam: new lines go in front of a line feed or to one of
the ends of the page, and the popup element goes in front of the blanks that
lead to the closing lines. The block is the fragment, each line of it indented
as the slot asks for, and between lines one line feed more.

`add_cases` says once what a step can do. All that is claimed about one step
or about many is read off it.

## Main definitions

* `Slot.spaces`: The indentation that a slot asks for.
* `Slot.body`: A fragment as it will stand in the page.
* `Slot.Block`: The text that a slot puts in for a fragment.
* `Inserted`: A page with a block put in at a seam.

## Theorems

* `body_of_unindented`, `body_of_oneLine`: What a fragment looks like in the
  page when there is no indentation, or no second line.
* `inserted_insertLines`: New lines go in at a seam.
* `blank_of_closesPage`: The closing lines start with a blank.
* `inserted_of_findSlot`: Every slot that is found is at a seam.
* `add_cases`: What a step can do.
-/

namespace HelpWiring

namespace Slot

/-- How many spaces a slot asks for in front of each new line. -/
def spaces : Slot → Nat
  | line _ indent => indent
  | offset _ => 0

/-- A fragment as it will stand in the page. -/
def body (slot : Slot) (fragment : Text) : Text :=
  Text.unlines (fragment.lines.map (indented slot.spaces))

/-- What a slot puts in for a fragment: between lines, a line feed parts the
    new lines from the old ones on one side. -/
def Block (slot : Slot) (fragment block : Text) : Prop :=
  match slot with
  | line _ _ => block = slot.body fragment ++ ['\n'] ∨ block = '\n' :: slot.body fragment
  | offset _ => block = slot.body fragment

theorem body_of_unindented {slot : Slot} (h : slot.spaces = 0) (fragment : Text) :
    slot.body fragment = fragment := by
  have hmap : fragment.lines.map (indented slot.spaces) = fragment.lines := by
    rw [h]
    exact List.map_id _
  rw [body, hmap]
  exact Text.glue_cut '\n' fragment

theorem body_of_oneLine (slot : Slot) {fragment : Text} (h : '\n' ∉ fragment) :
    slot.body fragment = indented slot.spaces fragment := by
  rw [body, Text.lines, Text.cut_of_notMem h]
  rfl

theorem body_infix_of_block {slot : Slot} {fragment block : Text}
    (h : slot.Block fragment block) : slot.body fragment <:+: block := by
  cases slot with
  | line index indent =>
      rcases h with rfl | rfl
      · exact List.infix_append_left
      · exact (List.suffix_cons _ _).isInfix
  | offset octets =>
      have hblock : block = (offset octets).body fragment := h
      exact hblock ▸ List.infix_rfl

end Slot

/-- `new` is `page` with `block` put in at a seam. -/
def Inserted (page block new : Text) : Prop :=
  ∃ a b, page = a ++ b ∧ new = a ++ (block ++ b) ∧ Text.Seam a b

theorem inserted_insertLines (index indent : Nat) (fragment page : Text) :
    ∃ block, Inserted page block (insertLines index indent fragment page)
      ∧ (Slot.line index indent).Block fragment block := by
  have hpage : page.lines ≠ [] := Text.cut_ne_nil '\n' page
  have hmap : fragment.lines.map (indented indent) ≠ [] := fun h =>
    Text.cut_ne_nil '\n' fragment (List.map_eq_nil_iff.1 h)
  have hglue : page = Text.unlines (page.lines.take index ++ page.lines.drop index) := by
    rw [List.take_append_drop]
    exact (Text.glue_cut '\n' page).symm
  by_cases hfront : page.lines.take index = []
  · -- in front of everything
    have hback : page.lines.drop index = page.lines := by
      have h := List.take_append_drop index page.lines
      rwa [hfront, List.nil_append] at h
    refine ⟨_, ⟨[], page, rfl, ?_, Or.inl rfl⟩, Or.inl rfl⟩
    rw [insertLines, hfront, hback, List.nil_append, Text.unlines, Text.glue_append hmap hpage,
      List.nil_append, List.append_assoc]
    exact congrArg (_ ++ '\n' :: ·) (Text.glue_cut '\n' page)
  by_cases hback : page.lines.drop index = []
  · -- after everything
    have hfull : Text.unlines (page.lines.take index) = page := by
      rw [hback, List.append_nil] at hglue
      exact hglue.symm
    refine ⟨_, ⟨page, [], (List.append_nil page).symm, ?_, Or.inr ?_⟩, Or.inr rfl⟩
    · rw [insertLines, hback, List.append_nil, Text.unlines, Text.glue_append hfront hmap,
        List.append_nil]
      exact congrArg (· ++ _) hfull
    · simp only [List.head?_nil, Option.mem_def, reduceCtorEq, false_implies, implies_true]
  · -- between two lines: the second part starts with the line feed between them
    refine ⟨_, ⟨Text.unlines (page.lines.take index),
      '\n' :: Text.unlines (page.lines.drop index), ?_, ?_, Or.inr ?_⟩, Or.inr rfl⟩
    · rw [← Text.glue_append hfront hback]
      exact hglue
    · rw [insertLines, Text.unlines, Text.glue_append hfront
        (List.append_ne_nil_of_left_ne_nil hmap _), Text.glue_append hmap hback]
      rfl
    · intro c hc
      rw [List.head?_cons, Option.mem_some] at hc
      subst hc
      decide

theorem blank_of_closesPage {t : Text} (h : closesPage t = true) :
    ∃ c rest, t = c :: rest ∧ isBlank c = true := by
  cases t with
  | nil => exact absurd h (by decide)
  | cons c rest =>
      refine ⟨c, rest, rfl, ?_⟩
      by_cases hc : isBlank c = true
      · exact hc
      · rw [closesPage, Text.afterBlanks?, if_neg hc] at h
        exact absurd h Bool.false_ne_true

/-- The slot of the imports is under a line. -/
theorem importSlot_eq_ok {page : Text} {slot : Slot} (h : importSlot page = .ok slot) :
    ∃ i, slot = .line (i + 1) 0 ∧ page.lines.findIdx? isImportLine = some i := by
  rw [importSlot] at h
  split at h
  · rename_i i hi
    exact ⟨i, (Except.ok.inj h).symm, hi⟩
  · simp only [reduceCtorEq] at h

/-- The slot of the hook call is in front of a line. -/
theorem hookSlot_eq_ok {page : Text} {slot : Slot} (h : hookSlot page = .ok slot) :
    ∃ index indent, slot = .line index indent := by
  simp only [hookSlot] at h
  split at h
  · simp only [reduceCtorEq] at h
  · split at h
    · exact ⟨_, _, (Except.ok.inj h).symm⟩
    · simp only [reduceCtorEq] at h

/-- The slot of the popup element is in front of what closes the page. -/
theorem popupSlot_eq_ok {page : Text} {slot : Slot} (h : popupSlot page = .ok slot) :
    ∃ a b, page = a ++ b ∧ slot = .offset (octets a) ∧ closesPage b = true := by
  rw [popupSlot] at h
  split at h
  · rename_i n hn
    rcases closingFrom_eq_some hn with ⟨a, b, hab, hcount, hb⟩
    rw [Nat.zero_add] at hcount
    exact ⟨a, b, hab, by rw [← Except.ok.inj h, hcount], hb⟩
  · simp only [reduceCtorEq] at h

theorem inserted_of_findSlot {page new fragment : Text} {kind : Kind} {slot : Slot}
    (h : findSlot page kind = .ok slot) (hnew : splice? page slot fragment = some new) :
    ∃ block, Inserted page block new ∧ slot.Block fragment block := by
  have hlines : ∀ index indent, slot = .line index indent →
      ∃ block, Inserted page block new ∧ slot.Block fragment block := by
    rintro index indent rfl
    rw [splice?, Option.some.injEq] at hnew
    exact hnew ▸ inserted_insertLines index indent fragment page
  cases kind with
  | imports =>
      rcases importSlot_eq_ok h with ⟨i, hi, -⟩
      exact hlines _ _ hi
  | hook =>
      rcases hookSlot_eq_ok h with ⟨index, indent, hslot⟩
      exact hlines _ _ hslot
  | component =>
      rcases popupSlot_eq_ok h with ⟨a, b, rfl, rfl, hb⟩
      rcases blank_of_closesPage hb with ⟨c, rest, rfl, hc⟩
      rw [splice?, insertAfter_append, Option.some.injEq] at hnew
      -- what closes the page starts with a blank, and that makes the seam
      refine ⟨fragment, ⟨a, c :: rest, rfl, hnew.symm, Or.inr ?_⟩, ?_⟩
      · intro d hd
        rw [List.head?_cons, Option.mem_some] at hd
        exact hd ▸ hc
      · exact (Slot.body_of_unindented rfl fragment).symm

namespace Page

theorem add_cases (page : Text) (kind : Kind) (tag : Text) :
    (hasFragment page kind tag = true ∧ add page kind tag = (page, .alreadyPresent))
    ∨ (hasFragment page kind tag = false ∧ ∃ reason, findSlot page kind = .error reason
        ∧ add page kind tag = (page, .anchorNotFound reason))
    ∨ (hasFragment page kind tag = false ∧ ∃ slot new, findSlot page kind = .ok slot
        ∧ splice? page slot (kind.text tag) = some new ∧ add page kind tag = (new, .added)) := by
  cases hhas : hasFragment page kind tag with
  | true => exact Or.inl ⟨rfl, add_of_hasFragment hhas⟩
  | false =>
      cases hslot : findSlot page kind with
      | error reason => exact Or.inr (Or.inl ⟨rfl, reason, rfl, add_of_no_slot hhas hslot⟩)
      | ok slot =>
          obtain ⟨new, hnew⟩ :=
            Option.isSome_iff_exists.1 (splice_isSome_of_findSlot hslot (kind.text tag))
          exact Or.inr (Or.inr ⟨rfl, slot, new, rfl, hnew, add_of_slot hhas hslot hnew⟩)

theorem added_inversion {page new : Text} {kind : Kind} {tag : Text}
    (h : add page kind tag = (new, .added)) :
    hasFragment page kind tag = false ∧ ∃ slot, findSlot page kind = .ok slot
      ∧ splice? page slot (kind.text tag) = some new := by
  rcases add_cases page kind tag with ⟨-, ha⟩ | ⟨-, reason, -, ha⟩ | ⟨hno, slot, t, hslot, ht, ha⟩
  · rw [ha, Prod.mk.injEq] at h
    exact absurd h.2 (by simp only [reduceCtorEq, not_false_eq_true])
  · rw [ha, Prod.mk.injEq] at h
    exact absurd h.2 (by simp only [reduceCtorEq, not_false_eq_true])
  · rw [ha, Prod.mk.injEq] at h
    exact ⟨hno, slot, hslot, h.1 ▸ ht⟩

/-- A step leaves the page alone or puts one block into it. -/
theorem add_unchanged_or_inserted (page : Text) (kind : Kind) (tag : Text) :
    (add page kind tag).1 = page ∨ ∃ block, Inserted page block (add page kind tag).1 := by
  rcases add_cases page kind tag with ⟨-, ha⟩ | ⟨-, reason, -, ha⟩ | ⟨-, slot, t, hslot, ht, ha⟩
  · exact Or.inl (by rw [ha])
  · exact Or.inl (by rw [ha])
  · rcases inserted_of_findSlot hslot ht with ⟨block, hblock, -⟩
    exact Or.inr ⟨block, by rw [ha]; exact hblock⟩

end Page

end HelpWiring
