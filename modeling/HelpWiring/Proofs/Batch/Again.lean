import HelpWiring.Proofs.Batch.Isolation
import HelpWiring.Proofs.Page.Again
import Mathlib.Data.List.Forall2

/-!
# Running a Batch Again

A run finds nothing to do on the tree that the same run left. Each page is
settled by its own visit, as `Page.wire_again_content` says, and no other visit
touches it, so the second run finds each page as its own visit left it. A page
that is missing, or that cannot be read or replaced, is left alone, and no visit
moves a path or changes what is allowed, so it is found the same again.

## Main definitions

* `PageReport.Repeats`: The report of a page in a second run.

## Theorems

* `repeats_visit`: A page visited twice.
* `visitAll_of_fixed`: A run over pages that the work leaves alone.
* `visitAll_again`: A second run of any work that has no more to do on a text
  that it was done on.
* `wire_again`: A batch wired twice.
-/

namespace HelpWiring

/-- The report of a page in a second run. Its text stays, and a page that was missing
    or failed is so again, and no other one is. -/
structure PageReport.Repeats (first again : PageReport) : Prop where
  file : again.file = first.file
  tag : again.tag = first.tag
  steps : List.Forall₂ Step.Repeats first.steps again.steps
  not_updated : again.outcome ≠ .updated
  notFound : again.outcome = .notFound ↔ first.outcome = .notFound
  failed : ∀ reason, again.outcome = .failed reason ↔ first.outcome = .failed reason

theorem PageReport.repeats_bareReport {e : Entry} {outcome : Outcome} (h : outcome ≠ .updated) :
    (bareReport e outcome).Repeats (bareReport e outcome) :=
  ⟨rfl, rfl, List.Forall₂.nil, h, Iff.rfl, fun _ => Iff.rfl⟩

/-- A page that was read is read again. -/
theorem PageReport.repeats_upToDate {e : Entry} {steps steps' : List Step} {outcome : Outcome}
    (hsteps : List.Forall₂ Step.Repeats steps steps')
    (houtcome : outcome = .upToDate ∨ outcome = .updated) :
    PageReport.Repeats ⟨e.file, e.tag, steps, outcome⟩ ⟨e.file, e.tag, steps', .upToDate⟩ := by
  refine ⟨rfl, rfl, hsteps, ?_, ?_, fun reason => ?_⟩ <;>
    rcases houtcome with rfl | rfl <;>
    simp only [ne_eq, reduceCtorEq, not_false_eq_true]

namespace FileTree

/-- A page that is visited again by the same wiring. -/
theorem repeats_visit {wanted : Selection} {root : Text} {e : Entry} {tree : FileTree}
    (ht : e.tag.isSolid = true) :
    (visit (wiring wanted) root e tree).1.Repeats
      (visit (wiring wanted) root e (visit (wiring wanted) root e tree).2).1 := by
  by_cases heditable : ∃ a page, Editable tree (joinPath root e.file) a page
  · rcases heditable with ⟨a, page, hpage⟩
    have hagain : Editable (visit (wiring wanted) root e tree).2 (joinPath root e.file) a
        (Page.wire page e.tag wanted).content := editable_visit_self.2 ⟨page, hpage, rfl⟩
    rw [visit_of_editable hagain, visit_of_editable hpage]
    -- the second wiring leaves the text, whether or not the first one did
    simp only [wiring, Page.wire_again_content page ht wanted, if_true]
    refine PageReport.repeats_upToDate (Page.wire_again_steps page ht wanted) ?_
    by_cases hnew : (Page.wire page e.tag wanted).content = page
    · exact Or.inl (if_pos hnew)
    · exact Or.inr (if_neg hnew)
  · -- the tree stays, so the second visit is the first one again
    simp only [not_exists] at heditable
    rw [tree_visit_of_not_editable heditable]
    cases hread : tree.read (joinPath root e.file) with
    | ok page =>
        rw [visit_of_locked hread fun a => heditable a page]
        by_cases hnew : (wiring wanted e page).1 = page
        · have hsteps := Page.wire_again_steps page ht wanted
          rw [show (Page.wire page e.tag wanted).content = page from hnew] at hsteps
          rw [if_pos hnew]
          exact PageReport.repeats_upToDate hsteps (Or.inl rfl)
        · rw [if_neg hnew]
          exact PageReport.repeats_bareReport (by rintro ⟨⟩)
    | error fault =>
        cases hholds : tree.holds (joinPath root e.file) with
        | true =>
            rw [visit_of_unreadable hholds hread]
            exact PageReport.repeats_bareReport (by rintro ⟨⟩)
        | false =>
            rw [visit_of_missing hholds]
            exact PageReport.repeats_bareReport (by rintro ⟨⟩)

/-- A run over pages that the work leaves alone. -/
theorem visitAll_of_fixed {work : Work} {root : Text} {es : List Entry} {tree : FileTree}
    (h : ∀ e ∈ es, ∀ a page, Editable tree (joinPath root e.file) a page →
      (work e page).1 = page) :
    (visitAll work root es tree).2 = tree := by
  induction es with
  | nil => rfl
  | cons e es ih =>
      rw [visitAll_cons, tree_visit_of_fixed (h e List.mem_cons_self)]
      exact ih fun f hf => h f (List.mem_cons_of_mem e hf)

/-- A second run of idempotent work finds every page as the first run left it, and
    leaves it so. -/
theorem visitAll_again (work : Work) {root : Text} {es : List Entry} {tree : FileTree}
    (h : Apart tree root es)
    (hwork : ∀ e ∈ es, ∀ page, (work e (work e page).1).1 = (work e page).1) :
    (visitAll work root es (visitAll work root es tree).2).2 = (visitAll work root es tree).2
    ∧ (visitAll work root es (visitAll work root es tree).2).1
      = es.map fun e => (visit work root e (visit work root e tree).2).1 := by
  have houtline := sameOutline_visitAll work root es tree
  constructor
  · refine visitAll_of_fixed fun e he a page hpage => ?_
    rcases editable_visit_self.1 ((editable_visitAll h he).1 hpage) with ⟨old, -, rfl⟩
    exact hwork e he old
  · rw [reports_visitAll (h.of_sameOutline houtline)]
    refine List.map_congr_left fun e he => report_visit_congr ?_ (read_visitAll h he)
    exact (sameOutline_visit work root e tree).symm.trans houtline

theorem repeats_visitAll {wanted : Selection} {root : Text} {es : List Entry} {tree : FileTree}
    (h : Apart tree root es) (htags : ∀ e ∈ es, e.tag.isSolid = true) :
    List.Forall₂ PageReport.Repeats (visitAll (wiring wanted) root es tree).1
      (visitAll (wiring wanted) root es (visitAll (wiring wanted) root es tree).2).1 := by
  have hagain := visitAll_again (wiring wanted) h fun e he page =>
    Page.wire_again_content page (htags e he) wanted
  rw [hagain.2, reports_visitAll h, List.forall₂_map_left_iff, List.forall₂_map_right_iff,
    List.forall₂_same]
  exact fun e he => repeats_visit (htags e he)

end FileTree

/-- A batch run that is repeated changes no file, and repeats its reports. -/
theorem Batch.wire_again (b : Batch) (tree : FileTree)
    (hapart : tree.Apart b.root b.catalog.entries)
    (htags : ∀ e ∈ b.catalog.entries, e.tag.isSolid = true) :
    let first : Report × FileTree := Batch.wire FileTree.disk b tree
    let second : Report × FileTree := Batch.wire FileTree.disk b first.2
    second.2 = first.2 ∧ List.Forall₂ PageReport.Repeats first.1.files second.1.files := by
  have hagain := FileTree.visitAll_again (wiring b.wanted) hapart fun e he page =>
    Page.wire_again_content page (htags e he) b.wanted
  exact ⟨hagain.1, FileTree.repeats_visitAll hapart htags⟩

theorem Batch.wire_again_three :
    pagesFolder.Apart threePages.root threePages.catalog.entries
    ∧ (∀ e ∈ threePages.catalog.entries, e.tag.isSolid = true)
    ∧ let first : Report × FileTree := Batch.wire FileTree.disk threePages pagesFolder
      let second : Report × FileTree := Batch.wire FileTree.disk threePages first.2
      second.2 = first.2 ∧ List.Forall₂ PageReport.Repeats first.1.files second.1.files :=
  ⟨by decide +kernel, by decide +kernel,
    Batch.wire_again threePages pagesFolder (by decide +kernel) (by decide +kernel)⟩

end HelpWiring
