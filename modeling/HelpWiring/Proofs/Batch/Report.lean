import HelpWiring.Proofs.Batch.Isolation
import HelpWiring.Proofs.Page.Growth
import Mathlib.Data.List.Forall2

/-!
# What a Run Reports

Runs are written for any disk, and what they report can be trusted on any. The
disk here works on states of some kind, and nothing is assumed of its answers: a
path can lead somewhere and the file behind it fail all the same, a text can be
refused when it is to be written, and a file can be another one when the next
page comes. A file tree is such a disk.

Whatever the answers are, a page has one of four reports, and `reported_visitPage`
says which: it is missing, it failed, the work left its text alone, or the work
changed it. Wiring says for each fragment whether it was added, and the visit
compares the texts. These are two ways to find a change, and they agree.

The reports of a run come one for each entry, in order, so the tally can be
checked against them. It is kept by a fold, and `foldl_add` says what the fold
has in it after some outcomes.

## Main definitions

* `Reported`: The reports that a page can have.
* `PageReport.Coherent`: Outcome and steps of a report go together.
* `PageReport.entry`: The entry that a report is about.
* `Outcome.isSkipped`, `Outcome.isFailed`: Outcomes that are counted together.
* `Report.Tallies`: One report for each entry, and the right counts.

## Theorems

* `reported_visitPage`, `reported_visitPages`: What a visit and a run report.
* `foldl_add`, `ofOutcomes_eq`: What the fold of the tally counts.
* `outcomes_agree`: What the reports of a wiring say is consistent.
* `tallied`: Both kinds of run account for every entry.
-/

namespace HelpWiring

/-- The reports that a page can have, with the text that was read if there was one. -/
inductive Reported (work : Work) (e : Entry) : PageReport → Prop
  | missing : Reported work e (bareReport e .notFound)
  | failed (reason : Text) : Reported work e (bareReport e (.failed reason))
  | kept {page : Text} (h : (work e page).1 = page) :
      Reported work e ⟨e.file, e.tag, (work e page).2, .upToDate⟩
  | changed {page : Text} (h : (work e page).1 ≠ page) :
      Reported work e ⟨e.file, e.tag, (work e page).2, .updated⟩

section

variable {σ : Type}

theorem reported_visitPage (disk : Disk (StateM σ)) (work : Work) (root : Text) (e : Entry)
    (s : σ) : Reported work e (reportOf e (visitPage disk work root e s).1) := by
  simp only [visitPage, bind, StateT.bind]
  rcases disk.holds (joinPath root e.file) s with ⟨_ | _, s₁⟩
  · exact .missing
  · simp only [if_true, bind, StateT.bind]
    rcases disk.read (joinPath root e.file) s₁ with ⟨reason | page, s₂⟩
    · exact .failed _
    · simp only
      by_cases hnew : (work e page).1 = page
      · rw [if_pos hnew]
        exact .kept hnew
      · -- only now is something written, and that can fail
        rw [if_neg hnew]
        simp only [bind, StateT.bind]
        rcases disk.write (joinPath root e.file) (work e page).1 s₂ with ⟨reason | _, s₃⟩
        · exact .failed _
        · exact .changed hnew

theorem visitPages_cons (disk : Disk (StateM σ)) (work : Work) (root : Text) (e : Entry)
    (es : List Entry) (s : σ) :
    visitPages disk work root (e :: es) s
      = (reportOf e (visitPage disk work root e s).1
          :: (visitPages disk work root es (visitPage disk work root e s).2).1,
        (visitPages disk work root es (visitPage disk work root e s).2).2) := rfl

theorem reported_visitPages (disk : Disk (StateM σ)) (work : Work) (root : Text)
    (es : List Entry) (s : σ) :
    List.Forall₂ (Reported work) es (visitPages disk work root es s).1 := by
  -- the other pages are visited in the state that the first visit leaves
  induction es generalizing s with
  | nil => exact List.Forall₂.nil
  | cons e es ih =>
      rw [visitPages_cons]
      exact List.Forall₂.cons (reported_visitPage disk work root e s) (ih _)

end

/-- What is true of every report that a page can have is true of the reports of a run. -/
theorem forall_of_reported {work : Work} {es : List Entry} {files : List PageReport}
    {P : PageReport → Prop} (h : List.Forall₂ (Reported work) es files)
    (hreport : ∀ e r, Reported work e r → P r) : ∀ r ∈ files, P r :=
  ((List.forall₂_and_left _ _).1 (h.imp fun e r hr => And.intro (hreport e r hr) hr).flip).1

/-- What a report says about its page is consistent. -/
structure PageReport.Coherent (wanted : Selection) (r : PageReport) : Prop where
  /-- A page that was read has a step for each wanted fragment, in order. -/
  steps_of_read : r.outcome = .updated ∨ r.outcome = .upToDate →
    r.steps.map Step.kind = [Kind.imports, .hook, .component].filter wanted.has
  /-- A page is changed exactly if a fragment was added. -/
  updated_iff : r.outcome = .updated ↔ ∃ step ∈ r.steps, step.status = .added
  /-- A page that was not read or not written has no steps. -/
  steps_of_unread : r.outcome = .notFound ∨ (∃ reason, r.outcome = .failed reason) → r.steps = []

theorem PageReport.coherent_bareReport (wanted : Selection) (e : Entry) {outcome : Outcome}
    (h : outcome = .notFound ∨ ∃ reason, outcome = .failed reason) :
    (bareReport e outcome).Coherent wanted := by
  have hunread : outcome ≠ .updated ∧ outcome ≠ .upToDate := by
    rcases h with rfl | ⟨reason, rfl⟩ <;>
      simp only [ne_eq, reduceCtorEq, not_false_eq_true, and_self]
  refine ⟨fun hread => ?_, iff_of_false hunread.1 ?_, fun _ => rfl⟩
  · rcases hread with hread | hread
    · exact absurd hread hunread.1
    · exact absurd hread hunread.2
  · rintro ⟨step, hstep, -⟩
    exact List.not_mem_nil hstep

theorem Wired.changed_iff (w : Wired) :
    w.changed = true ↔ ∃ step ∈ w.steps, step.status = .added := by
  simp only [changed, List.any_eq_true, beq_iff_eq]

theorem Reported.coherent {wanted : Selection} {e : Entry} {r : PageReport}
    (h : Reported (wiring wanted) e r) : r.Coherent wanted := by
  cases h with
  | missing => exact PageReport.coherent_bareReport wanted e (Or.inl rfl)
  | failed reason => exact PageReport.coherent_bareReport wanted e (Or.inr ⟨reason, rfl⟩)
  | @kept page h =>
      refine ⟨fun _ => Page.steps_wire page e.tag wanted, ?_, ?_⟩
      · -- the text is the same, so no step reports a fragment as added
        have hno := mt (Page.changed_wire_iff page e.tag wanted).1 (not_not_intro h)
        rw [Wired.changed_iff] at hno
        exact iff_of_false (by simp only [reduceCtorEq, not_false_eq_true]) hno
      · simp only [reduceCtorEq, exists_false, or_self, false_implies]
  | @changed page h =>
      refine ⟨fun _ => Page.steps_wire page e.tag wanted, ?_, ?_⟩
      · have hyes := (Page.changed_wire_iff page e.tag wanted).2 h
        rw [Wired.changed_iff] at hyes
        exact iff_of_true rfl hyes
      · simp only [reduceCtorEq, exists_false, or_self, false_implies]

/-- A wiring reports a change exactly if it makes one. So the outcome of a page agrees with
    its steps, on any disk. -/
theorem Batch.outcomes_agree {σ : Type} (disk : Disk (StateM σ)) (b : Batch) (s : σ) :
    (∀ page tag wanted,
      (Page.wire page tag wanted).changed = true ↔ (Page.wire page tag wanted).content ≠ page)
    ∧ ∀ r ∈ (Batch.wire disk b s).1.files, r.Coherent b.wanted := by
  refine ⟨Page.changed_wire_iff, fun r hr => ?_⟩
  have hreports := reported_visitPages disk (wiring b.wanted) b.root b.catalog.entries s
  -- each report comes with the entry that it is about, and is coherent for it
  have hcoherent := (hreports.imp fun e r hreport => And.intro hreport.coherent hreport).flip
  exact ((List.forall₂_and_left _ _).1 hcoherent).1 r hr

/-- The first page gets all its fragments, and is written. -/
theorem Batch.outcomes_agree_three :
    PageReport.Coherent threePages.wanted
      ⟨"Home.tsx".toList, "home".toList,
        [⟨.imports, .added⟩, ⟨.hook, .added⟩, ⟨.component, .added⟩], .updated⟩ :=
  (Batch.outcomes_agree FileTree.disk threePages pagesFolder).2 _ (by decide +kernel)

/-- The entry that a report is about. -/
def PageReport.entry (r : PageReport) : Entry := ⟨r.file, r.tag⟩

theorem Reported.entry_eq {work : Work} {e : Entry} {r : PageReport} (h : Reported work e r) :
    e = r.entry := by
  cases h with
  | missing => rfl
  | failed reason => rfl
  | kept h => rfl
  | changed h => rfl

/-- Nothing was done to the file, which may be missing. -/
def Outcome.isSkipped : Outcome → Bool
  | upToDate | notFound => true
  | updated | failed _ => false

/-- The file could not be read or written. -/
def Outcome.isFailed : Outcome → Bool
  | failed _ => true
  | updated | upToDate | notFound => false

/-- What one outcome adds to each count. -/
theorem Summary.add_eq (s : Summary) (o : Outcome) :
    s.add o = ⟨s.updated + [o].count .updated, s.skipped + [o].countP Outcome.isSkipped,
      s.errors + [o].countP Outcome.isFailed, s.notFound + [o].count .notFound⟩ := by
  cases o <;> rfl

theorem Summary.foldl_add (outcomes : List Outcome) (s : Summary) :
    outcomes.foldl add s
      = ⟨s.updated + outcomes.count .updated, s.skipped + outcomes.countP Outcome.isSkipped,
        s.errors + outcomes.countP Outcome.isFailed, s.notFound + outcomes.count .notFound⟩ := by
  induction outcomes generalizing s with
  | nil => rfl
  | cons o os ih =>
      -- the first outcome counts as a list of its own
      have hcons : o :: os = [o] ++ os := rfl
      rw [List.foldl_cons, ih, add_eq, hcons]
      simp only [List.count_append, List.countP_append, Nat.add_assoc]

/-- What the tally of some outcomes counts. -/
theorem Summary.ofOutcomes_eq (outcomes : List Outcome) :
    ofOutcomes outcomes
      = ⟨outcomes.count .updated, outcomes.countP Outcome.isSkipped,
        outcomes.countP Outcome.isFailed, outcomes.count .notFound⟩ := by
  rw [ofOutcomes, foldl_add]
  simp only [zero, Nat.zero_add]

/-- The reports of a run are one for each entry, and its tally counts them. -/
structure Report.Tallies (entries : List Entry) (r : Report) : Prop where
  /-- The reports are about the entries, in their order. -/
  pages : r.files.map PageReport.entry = entries
  updated : r.summary.updated = (r.files.map PageReport.outcome).count .updated
  errors : r.summary.errors = (r.files.map PageReport.outcome).countP Outcome.isFailed
  notFound : r.summary.notFound = (r.files.map PageReport.outcome).count .notFound
  /-- A missing file is skipped. -/
  skipped : r.summary.skipped = (r.files.map PageReport.outcome).countP Outcome.isSkipped
  /-- No entry is counted twice, and none is left out. -/
  total : r.summary.updated + r.summary.skipped + r.summary.errors = entries.length
  files : r.summary.files = entries.length
  notFound_le : r.summary.notFound ≤ r.summary.skipped

theorem Report.tallies_ofFiles {work : Work} {es : List Entry} {files : List PageReport}
    (h : List.Forall₂ (Reported work) es files) : (Report.ofFiles files).Tallies es := by
  have hpages : files.map PageReport.entry = es := by
    have heq : List.Forall₂ (fun e r => e = PageReport.entry r) es files :=
      h.imp fun e r => Reported.entry_eq
    rw [← List.forall₂_map_right_iff, List.forall₂_eq_eq_eq] at heq
    exact heq.symm
  have htotal : (Report.ofFiles files).summary.files = es.length := by
    rw [Report.ofFiles, Summary.files_ofOutcomes, List.length_map, ← hpages, List.length_map]
  -- every missing file is a skipped one
  have hle : (files.map PageReport.outcome).count .notFound
      ≤ (files.map PageReport.outcome).countP Outcome.isSkipped := by
    refine List.countP_mono_left fun o _ ho => ?_
    rw [eq_of_beq ho]
    rfl
  rw [Report.ofFiles, Summary.ofOutcomes_eq] at htotal ⊢
  exact ⟨hpages, rfl, rfl, rfl, rfl, htotal, htotal, hle⟩

/-- Both kinds of run report each entry once and count what they report, on any disk. -/
theorem Batch.tallied {σ : Type} (disk : Disk (StateM σ)) (b : Batch) (s : σ) :
    (Batch.wire disk b s).1.Tallies b.catalog.entries
    ∧ (Batch.clean disk b s).1.Tallies b.catalog.entries :=
  ⟨Report.tallies_ofFiles (reported_visitPages disk (wiring b.wanted) b.root b.catalog.entries s),
    Report.tallies_ofFiles (reported_visitPages disk cleaning b.root b.catalog.entries s)⟩

end HelpWiring
