import HelpWiring.Page.Wiring

/-!
# Reports

What a run did, file by file, and a tally. A file that was read has a step for
each wanted fragment; a file that was missing or could not be used has none. In
the tally a missing file counts among the skipped ones and is counted once more
on its own, so updated, skipped and failed files together are all files.

## Main definitions

* `Outcome`: How it ended for a file.
* `PageReport`: What happened to a file.
* `Summary`: The tally.
* `Report`: What happened in a run.
* `Report.ofFiles`: A report out of the reports of its files.

## Theorems

* `files_ofOutcomes`: The tally accounts for every file.
-/

namespace HelpWiring

/-- How it ended for a file. -/
inductive Outcome
  /-- It was changed and written. -/
  | updated
  /-- There was nothing to change. -/
  | upToDate
  /-- There is no such file. -/
  | notFound
  /-- It could not be read or written. -/
  | failed (reason : Text)
  deriving DecidableEq

/-- The outcome in words. -/
def Outcome.message : Outcome → Text
  | updated => "updated".toList
  | upToDate => "up to date".toList
  | notFound => "file not found".toList
  | failed reason => "error: ".toList ++ reason

/-- What happened to a file. -/
structure PageReport where
  file : Text
  tag : Text
  steps : List Step
  outcome : Outcome
  deriving DecidableEq

/-- The tally of a run. -/
structure Summary where
  updated : Nat
  skipped : Nat
  errors : Nat
  notFound : Nat
  deriving DecidableEq

namespace Summary

/-- Before the first file. -/
def zero : Summary := ⟨0, 0, 0, 0⟩

/-- One more file. -/
def add (s : Summary) : Outcome → Summary
  | .updated => { s with updated := s.updated + 1 }
  | .upToDate => { s with skipped := s.skipped + 1 }
  | .notFound => { s with skipped := s.skipped + 1, notFound := s.notFound + 1 }
  | .failed _ => { s with errors := s.errors + 1 }

/-- The tally of some outcomes. -/
def ofOutcomes (outcomes : List Outcome) : Summary := outcomes.foldl add zero

/-- How many files are accounted for. -/
def files (s : Summary) : Nat := s.updated + s.skipped + s.errors

theorem files_add (s : Summary) (o : Outcome) : (s.add o).files = s.files + 1 := by
  cases o <;> simp only [add, files] <;> omega

theorem files_foldl_add (outcomes : List Outcome) (s : Summary) :
    (outcomes.foldl add s).files = s.files + outcomes.length := by
  induction outcomes generalizing s with
  | nil => rfl
  | cons o os ih =>
      rw [List.foldl_cons, ih, files_add, List.length_cons]
      omega

theorem files_ofOutcomes (outcomes : List Outcome) :
    (ofOutcomes outcomes).files = outcomes.length := by
  rw [ofOutcomes, files_foldl_add]
  exact Nat.zero_add _

end Summary

/-- What happened in a run, in the order of the catalog. -/
structure Report where
  files : List PageReport
  summary : Summary
  deriving DecidableEq

/-- The report of a run out of the reports of its files. -/
def Report.ofFiles (files : List PageReport) : Report :=
  ⟨files, .ofOutcomes (files.map PageReport.outcome)⟩

/-- Which kind of run a report is about. -/
inductive Mode
  /-- Fragments were put in. -/
  | wire
  /-- Repeated imports were removed. -/
  | clean
  deriving DecidableEq

end HelpWiring
