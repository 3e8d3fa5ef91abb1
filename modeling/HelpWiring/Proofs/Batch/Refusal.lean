import HelpWiring.Proofs.Batch.Report
import HelpWiring.Proofs.Page.Lines
import HelpWiring.Proofs.Page.Tail

/-!
# Splices That Are Refused

A splice is refused if its offset would cut a character. Nothing in a run is
there to meet that: it would not be the fault of one page, to be reported and
passed over, it would be the end of the run, with the pages behind it unvisited.
`Page.add` rules it out in its definition and so has nothing to say about it.
Here the steps of a page and the visits of a run are told once more with splices
that may be refused and then end everything, and they come to the same, since a
slot that was found is within its page.

A slot that was not found but chosen can be refused, and `splice_eq_none_iff`
says when: its offset, cut down to the end of the page, is not at the edge of a
character.

## Main definitions

* `Slot.Within`: A slot that is in a page.
* `Page.add?`, `Page.wire?`: Steps that may be refused.
* `visitPage?`, `Batch.wire?`: Visits and runs that end when a step is refused.

## Theorems

* `within_of_findSlot`: Every slot that is found is in its page.
* `splice_eq_none_iff`, `splice_of_within`: When a splice is refused, and that it
  is not in such a slot.
* `add?_eq`, `wire?_eq`: No step is refused.
* `run_visitPage?`, `run_visitPages?`: Nor is a visit, if its work is not.
* `Batch.never_refused`: A run goes to its end.
-/

namespace HelpWiring

/-- A slot that is in a page: in front of a line or behind all of them, or at the edge of a
    character. -/
def Slot.Within (page : Text) : Slot → Prop
  | line index _ => index ≤ page.lines.length
  | offset count => count ≤ octets page ∧ Text.OnEdge page count

theorem within_of_findSlot {page : Text} {kind : Kind} {slot : Slot}
    (h : findSlot page kind = .ok slot) : slot.Within page := by
  cases kind with
  | imports =>
      rcases importSlot_eq_ok h with ⟨i, rfl, hi⟩
      exact (List.findIdx?_eq_some_iff_getElem.1 hi).1
  | hook =>
      rcases hookSite_of_hookSlot h with ⟨_, index, line, hsite, rfl⟩
      exact Nat.le_of_lt (List.getElem?_eq_some_iff.1 hsite.here).1
  | component =>
      rcases popupSlot_eq_ok h with ⟨a, b, rfl, rfl, -⟩
      have hedge : Text.OnEdge (a ++ b) (octets a) := Text.onEdge_iff.2 ⟨a, b, rfl, rfl⟩
      exact ⟨hedge.le_octets, hedge⟩

theorem insertAfter_eq_none_iff {fragment : Text} {count : Nat} {page : Text} :
    insertAfter? count fragment page = none ↔ ¬ Text.OnEdge page (min count (octets page)) := by
  induction page generalizing count with
  | nil =>
      have hedge : Text.OnEdge [] (min count (octets [])) := by
        rw [octets, Nat.min_zero]
        exact Text.onEdge_zero []
      rw [insertAfter?]
      exact iff_of_false (Option.some_ne_none _) fun h => h hedge
  | cons c r ih =>
      have hpos := c.utf8Size_pos
      by_cases hzero : count = 0
      · subst hzero
        rw [insertAfter?, if_pos rfl, Nat.zero_min]
        exact iff_of_false (Option.some_ne_none _) fun h => h (Text.onEdge_zero _)
      · rw [insertAfter?, if_neg hzero, octets, Text.onEdge_cons_iff (by omega)]
        by_cases hlt : count < c.utf8Size
        · -- that would cut the first character
          rw [if_pos hlt]
          exact iff_of_true rfl fun h => by omega
        · have hmin : min count (c.utf8Size + octets r) - c.utf8Size
              = min (count - c.utf8Size) (octets r) := by omega
          have hle : c.utf8Size ≤ min count (c.utf8Size + octets r) := by omega
          rw [if_neg hlt, Option.map_eq_none_iff, ih, hmin, and_iff_right hle]

/-- New lines are never refused, and a fragment in a line is if it would cut a character. -/
theorem splice_eq_none_iff {page fragment : Text} {slot : Slot} :
    splice? page slot fragment = none
      ↔ ∃ count, slot = .offset count ∧ ¬ Text.OnEdge page (min count (octets page)) := by
  cases slot with
  | line index indent =>
      refine iff_of_false (Option.some_ne_none _) ?_
      rintro ⟨count, hslot, -⟩
      cases hslot
  | offset count => simp only [splice?, insertAfter_eq_none_iff, Slot.offset.injEq, exists_eq_left']

/-- In a slot that is in the page, a fragment can be put. -/
theorem splice_of_within {page : Text} {slot : Slot} (h : slot.Within page) (fragment : Text) :
    ∃ new, splice? page slot fragment = some new := by
  refine Option.ne_none_iff_exists'.1 fun hnone => ?_
  rcases splice_eq_none_iff.1 hnone with ⟨count, rfl, hcut⟩
  refine hcut ?_
  rw [Nat.min_eq_left h.1]
  exact h.2

namespace Page

/-- One fragment, if its splice is not refused. -/
def add? (page : Text) (kind : Kind) (tag : Text) : Option (Text × Status) :=
  if hasFragment page kind tag then some (page, .alreadyPresent)
  else match findSlot page kind with
    | .ok slot => (splice? page slot (kind.text tag)).map fun new => (new, .added)
    | .error reason => some (page, .anchorNotFound reason)

/-- Fragments one after the other, if no splice is refused. -/
def wireWith? (page tag : Text) : List Kind → Option Wired
  | [] => some ⟨page, []⟩
  | kind :: more => do
    let (next, status) ← add? page kind tag
    let rest ← wireWith? next tag more
    return ⟨rest.content, ⟨kind, status⟩ :: rest.steps⟩

/-- The wanted fragments, if no splice is refused. -/
def wire? (page tag : Text) (wanted : Selection) : Option Wired := wireWith? page tag wanted.kinds

theorem add?_eq (page : Text) (kind : Kind) (tag : Text) :
    add? page kind tag = some (add page kind tag) := by
  cases hhas : hasFragment page kind tag with
  | true => rw [add?, if_pos hhas, add_of_hasFragment hhas]
  | false =>
      rw [add?, if_neg (Bool.eq_false_iff.1 hhas)]
      cases hslot : findSlot page kind with
      | error reason => rw [add_of_no_slot hhas hslot]
      | ok slot =>
          rcases splice_of_within (within_of_findSlot hslot) (kind.text tag) with ⟨new, hnew⟩
          rw [add_of_slot hhas hslot hnew]
          simp only [hnew, Option.map_some]

theorem wireWith?_eq (page tag : Text) (kinds : List Kind) :
    wireWith? page tag kinds = some (wireWith page tag kinds) := by
  induction kinds generalizing page with
  | nil => rfl
  | cons kind more ih =>
      simp only [wireWith?, add?_eq, Option.bind_eq_bind, Option.bind_some, ih]
      rfl

theorem wire?_eq (page tag : Text) (wanted : Selection) :
    wire? page tag wanted = some (wire page tag wanted) := wireWith?_eq page tag wanted.kinds

end Page

/-- What is done to the text of a page, if it is not refused. -/
abbrev RefusableWork := Entry → Text → Option (Text × List Step)

/-- Putting the wanted fragments in, if no splice is refused. -/
def wiring? (wanted : Selection) : RefusableWork := fun e page =>
  (Page.wire? page e.tag wanted).map fun w => (w.content, w.steps)

theorem wiring?_eq (wanted : Selection) (e : Entry) (page : Text) :
    wiring? wanted e page = some (wiring wanted e page) := by
  rw [wiring?, Page.wire?_eq]
  rfl

section

variable {m : Type → Type} [Monad m]

/-- Works on one page. Work that is refused ends the run, and this page is not written. -/
def visitPage? (disk : Disk m) (work : RefusableWork) (root : Text) (e : Entry) :
    OptionT m (Except Fault PageReport) := do
  let path := joinPath root e.file
  if ← disk.holds path then
    match ← disk.read path with
    | .error reason => return .error (PageFault.unreadable path reason).toFault
    | .ok page =>
      let (new, steps) ← OptionT.mk (pure (work e page))
      if new = page then return .ok ⟨e.file, e.tag, steps, .upToDate⟩
      else match ← disk.write path new with
        | .error reason => return .error (PageFault.unwritable path reason).toFault
        | .ok () => return .ok ⟨e.file, e.tag, steps, .updated⟩
  else return .ok (bareReport e .notFound)

/-- Works on the pages of some entries, in order, up to the first one where work is refused. -/
def visitPages? (disk : Disk m) (work : RefusableWork) (root : Text) :
    List Entry → OptionT m (List PageReport)
  | [] => return []
  | e :: rest => do
    let result ← visitPage? disk work root e
    let reports ← visitPages? disk work root rest
    return reportOf e result :: reports

/-- Puts the wanted fragments into every page, up to the first one where a splice is refused. -/
def Batch.wire? (disk : Disk m) (b : Batch) : OptionT m Report := do
  let files ← visitPages? disk (wiring? b.wanted) b.root b.catalog.entries
  return .ofFiles files

end

section

variable {m : Type → Type} [Monad m] [LawfulMonad m] {disk : Disk m} {work : Work}
  {work? : RefusableWork}

/-- An action of the disk goes on with what it gives. -/
theorem run_lift_bind {α β : Type} (action : m α) (next : α → OptionT m β) :
    ((monadLift action : OptionT m α) >>= next).run = action >>= fun given => (next given).run := by
  simp only [OptionT.run_bind, OptionT.run_monadLift, monadLift_self, Option.elimM, bind_map_left,
    Option.elim_some]

/-- So does work that is not refused. -/
theorem run_some_bind {α β : Type} (result : α) (next : α → OptionT m β) :
    ((OptionT.mk (pure (some result)) : OptionT m α) >>= next).run = (next result).run := by
  simp only [OptionT.run_bind, OptionT.run_mk, Option.elimM, pure_bind, Option.elim_some]

/-- A visit whose work is not refused is one that cannot be. -/
theorem run_visitPage? (hwork : ∀ e page, work? e page = some (work e page)) (root : Text)
    (e : Entry) : (visitPage? disk work? root e).run = some <$> visitPage disk work root e := by
  simp only [visitPage?, visitPage, run_lift_bind, map_bind]
  refine bind_congr fun found => ?_
  cases found with
  | false => simp only [Bool.false_eq_true, if_false, OptionT.run_pure, map_pure]
  | true =>
      simp only [if_true, run_lift_bind, map_bind]
      refine bind_congr fun text => ?_
      cases text with
      | error reason => simp only [OptionT.run_pure, map_pure]
      | ok page =>
          simp only [hwork, run_some_bind]
          by_cases hnew : (work e page).1 = page
          · simp only [if_pos hnew, OptionT.run_pure, map_pure]
          · simp only [if_neg hnew, run_lift_bind, map_bind]
            refine bind_congr fun written => ?_
            cases written <;> simp only [OptionT.run_pure, map_pure]

theorem run_visitPages? (hwork : ∀ e page, work? e page = some (work e page)) (root : Text)
    (es : List Entry) :
    (visitPages? disk work? root es).run = some <$> visitPages disk work root es := by
  -- the other pages are visited once the first one has been
  induction es with
  | nil => simp only [visitPages?, visitPages, OptionT.run_pure, map_pure]
  | cons e rest ih =>
      simp only [visitPages?, visitPages, OptionT.run_bind, run_visitPage? hwork, ih,
        OptionT.run_pure, Option.elimM, map_bind, bind_map_left, Option.elim_some, map_pure]

/-- What is found is in the page, so no step and no visit is refused, and a run goes to its
    end on any disk. A slot that was not found can be refused, and is if its offset would
    cut a character. -/
theorem Batch.never_refused (disk : Disk m) (b : Batch) :
    (∀ page kind slot, findSlot page kind = .ok slot → slot.Within page)
    ∧ (∀ page kind tag, Page.add? page kind tag = some (Page.add page kind tag))
    ∧ (∀ page tag wanted, Page.wire? page tag wanted = some (Page.wire page tag wanted))
    ∧ (Batch.wire? disk b).run = some <$> Batch.wire disk b
    ∧ ∀ page slot fragment, splice? page slot fragment = none
      ↔ ∃ count, slot = .offset count ∧ ¬ Text.OnEdge page (min count (octets page)) := by
  refine ⟨fun _ _ _ => within_of_findSlot, Page.add?_eq, Page.wire?_eq, ?_,
    fun _ _ _ => splice_eq_none_iff⟩
  simp only [wire?, wire, OptionT.run_bind, run_visitPages? (wiring?_eq b.wanted), OptionT.run_pure,
    Option.elimM, map_bind, bind_map_left, Option.elim_some, map_pure]

end

/-- The slot of the popup element in `twoTags` is behind a character of two octets, and
    that cannot be cut. -/
theorem Batch.never_refused_twoTags :
    findSlot twoTags .component = .ok (.offset 8) ∧ (Slot.offset 8).Within twoTags
    ∧ splice? twoTags (.offset 1) popupName = none
    ∧ (Batch.wire? FileTree.disk threePages).run pagesFolder
      = (some <$> Batch.wire FileTree.disk threePages) pagesFolder := by
  have hall := Batch.never_refused FileTree.disk threePages
  have hslot : findSlot twoTags .component = .ok (.offset 8) := by decide
  exact ⟨hslot, hall.1 twoTags .component _ hslot, by decide, congrFun hall.2.2.2.1 pagesFolder⟩

end HelpWiring
