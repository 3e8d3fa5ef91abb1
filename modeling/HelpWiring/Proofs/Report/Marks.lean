import HelpWiring.Proofs.Batch.Report
import HelpWiring.Proofs.Text.Rows
import HelpWiring.Report.Console

/-!
# Marks on the Console

A reader of the console goes by how the lines begin: a check, an arrow or a
cross for a file, two spaces in front of the sign for a step. The tally at the
end was counted elsewhere, when the files were visited. `console_showsTally`
says that the two agree. The marked lines are one for each file, in order, the
mark goes with the outcome, and as many lines have a mark as the tally has files
for it.

That is seen on each file on its own, whatever kind of run it was. All other
lines are plain, so that a test for marks or for steps can pass over them
(`filter_lines`), and the lines of a report are those of its files in a row
with the tally behind them (`filter_console`). The tally is plain too: its lines
are indented, but with no sign behind the spaces.

Names, tags and reasons are printed as they are. So one with a line feed in it
is no longer one line, and what is behind the line feed can begin like the line
of another file. That is why they have to be without.

## Main definitions

* `Outcome.mark`: The mark of an outcome.
* `PageReport.verdict`: The line that says how it ended for a file.
* `isVerdict`, `isStepLine`: Lines that begin with a mark, and with the sign of
  a step.
* `Plain`: Lines that begin like neither.
* `PageReport.OneLine`: The texts of a report are without line feeds.
* `Report.ShowsTally`: The lines on the console agree with the tally.

## Theorems

* `filter_isVerdict_lines`, `filter_isStepLine_lines`: The lines of a file that
  begin so.
* `lines_console`: The console, cut into lines.
* `filter_isVerdict_console`, `filter_isStepLine_console`: The lines of a report
  that begin so.
* `countP_mark_console`: How many lines have a mark.
* `console_showsTally`: The console agrees with the tally.
-/

namespace HelpWiring

/-- How the line begins that says how it ended. -/
def Outcome.mark : Outcome → Text
  | updated => "✓ ".toList
  | upToDate => "→ ".toList
  | notFound | failed _ => "✗ ".toList

/-- What is between the mark and the name of the file, and what is behind the name. -/
def Outcome.wording (mode : Mode) : Outcome → Text × Text
  | updated =>
    match mode with
    | .wire => ([], " updated successfully".toList)
    | .clean => ([], ": Removed duplicate imports".toList)
  | upToDate =>
    match mode with
    | .wire => ([], " already up to date".toList)
    | .clean => ([], ": No duplicates found".toList)
  | notFound => ([], ": File not found".toList)
  | failed reason => ("Error updating ".toList, ": ".toList ++ reason)

/-- The line that says how it ended for a file: a mark, and the name of the file in some
    words. -/
def PageReport.verdict (mode : Mode) (f : PageReport) : Text :=
  f.outcome.mark ++ ((f.outcome.wording mode).1 ++ (f.file ++ (f.outcome.wording mode).2))

/-- The marks. -/
def marks : List Text := ["✓ ".toList, "→ ".toList, "✗ ".toList]

/-- Whether a line begins with a mark. -/
def isVerdict (line : Text) : Bool := marks.any (·.isPrefixOf line)

/-- Whether a line begins like that of a step. -/
def isStepLine (line : Text) : Bool :=
  "  ✓".toList.isPrefixOf line || "  ⚠".toList.isPrefixOf line

theorem mark_mem_marks (o : Outcome) : o.mark ∈ marks := by
  cases o with
  | failed reason =>
      have hcross : "✗ ".toList ∈ marks := by decide
      exact hcross
  | _ => decide

theorem isPrefixOf_verdict {mark : Text} (h : mark ∈ marks) (mode : Mode) (f : PageReport) :
    mark.isPrefixOf (f.verdict mode) = (f.outcome.mark == mark) := by
  rcases f with ⟨file, tag, steps, outcome⟩
  simp only [marks, List.mem_cons, List.not_mem_nil, or_false] at h
  rcases h with rfl | rfl | rfl <;> cases outcome <;> rfl

theorem isVerdict_verdict (mode : Mode) (f : PageReport) : isVerdict (f.verdict mode) = true := by
  rcases f with ⟨file, tag, steps, outcome⟩
  cases outcome <;> rfl

theorem isStepLine_verdict (mode : Mode) (f : PageReport) :
    isStepLine (f.verdict mode) = false := by
  rcases f with ⟨file, tag, steps, outcome⟩
  cases outcome <;> rfl

theorem isVerdict_line (step : Step) : isVerdict step.line = false := by
  rcases step with ⟨kind, _ | _ | reason⟩ <;> rfl

theorem isStepLine_line (step : Step) : isStepLine step.line = true := by
  rcases step with ⟨kind, _ | _ | reason⟩ <;> rfl

/-- A line that begins neither like the one nor like the other. -/
def Plain (line : Text) : Prop := isVerdict line = false ∧ isStepLine line = false

/-- A test that no plain line passes leaves none of them. -/
theorem filter_of_plain {test : Text → Bool} (ht : ∀ line, Plain line → test line = false)
    {ls : List Text} (h : ∀ line ∈ ls, Plain line) : ls.filter test = [] :=
  List.filter_eq_nil_iff.2 fun line hline => by
    rw [ht line (h line hline)]
    exact Bool.false_ne_true

theorem plain_nil : Plain [] := ⟨rfl, rfl⟩

theorem plain_announcement (mode : Mode) (f : PageReport) :
    ∀ line ∈ announcement mode f, Plain line := by
  cases mode with
  | wire => exact List.forall_mem_singleton.2 ⟨rfl, rfl⟩
  | clean => exact nofun

theorem notMem_ofNat (n : Nat) : '\n' ∉ Text.ofNat n := fun h =>
  absurd (Text.isDigit_of_mem_ofNat h) (by decide)

/-- The tally is indented, but without a sign behind the spaces, and its lines are single. -/
theorem plain_summaryLines (s : Summary) :
    ∀ line ∈ summaryLines s, Plain line ∧ '\n' ∉ line := by
  have hcount : ∀ {words : Text} (n : Nat), '\n' ∉ words → '\n' ∉ words ++ Text.ofNat n :=
    fun n hwords => by
      rw [List.mem_append, not_or]
      exact ⟨hwords, notMem_ofNat n⟩
  simp only [summaryLines, List.forall_mem_append, List.forall_mem_cons]
  refine ⟨⟨⟨⟨plain_nil, List.not_mem_nil⟩, ⟨⟨rfl, rfl⟩, by decide⟩, ⟨⟨rfl, rfl⟩, by decide⟩,
    ⟨⟨rfl, rfl⟩, hcount _ (by decide)⟩, ⟨⟨rfl, rfl⟩, hcount _ (by decide)⟩, nofun⟩, ?_⟩,
    ⟨⟨rfl, rfl⟩, hcount _ (by decide)⟩, ⟨⟨rfl, rfl⟩, by decide⟩, nofun⟩
  -- missing files are not always mentioned
  by_cases hmissing : 0 < s.notFound
  · rw [if_pos hmissing, List.forall_mem_singleton, List.mem_append, not_or]
    exact ⟨⟨rfl, rfl⟩, hcount _ (by decide), by decide⟩
  · rw [if_neg hmissing]
    exact nofun

namespace PageReport

variable {f : PageReport}

theorem lines_of_missing (h : f.outcome = .notFound) (mode : Mode) :
    f.lines mode = [f.verdict mode] := by
  rw [PageReport.lines, verdict, h]
  rfl

/-- How it ended is said on one line. An empty one can be behind it. -/
theorem exists_outcomeLines (h : f.outcome ≠ .notFound) (mode : Mode) :
    ∃ gap, outcomeLines mode f.file f.outcome = f.verdict mode :: gap ∧ ∀ line ∈ gap, line = [] := by
  have hempty : ∀ line ∈ [([] : Text)], line = [] := fun line hline => List.mem_singleton.1 hline
  rcases f with ⟨file, tag, steps, outcome⟩
  cases outcome with
  | updated =>
      cases mode with
      | wire => exact ⟨[[]], rfl, hempty⟩
      | clean => exact ⟨[], rfl, nofun⟩
  | upToDate =>
      cases mode with
      | wire => exact ⟨[[]], rfl, hempty⟩
      | clean => exact ⟨[], rfl, nofun⟩
  | notFound => exact absurd rfl h
  | failed reason =>
      have hmark : "✗ Error updating ".toList = "✗ ".toList ++ "Error updating ".toList := by decide
      refine ⟨[[]], ?_, hempty⟩
      rw [outcomeLines, hmark, List.append_assoc, List.append_assoc, List.append_assoc]
      rfl

/-- The lines of a file that exists: its steps, and then how it ended. -/
theorem exists_lines (h : f.outcome ≠ .notFound) (mode : Mode) :
    ∃ gap, f.lines mode
        = announcement mode f ++ (f.steps.map Step.line ++ f.verdict mode :: gap)
      ∧ ∀ line ∈ gap, line = [] := by
  rcases exists_outcomeLines h mode with ⟨gap, hlines, hgap⟩
  refine ⟨gap, ?_, hgap⟩
  unfold PageReport.lines
  split
  · rename_i hmissing
    exact absurd hmissing h
  · rw [hlines, List.append_assoc]

/-- Of the lines of a file, a test that no plain line passes leaves steps and the line that says
    how it ended. -/
theorem filter_lines {test : Text → Bool} (ht : ∀ line, Plain line → test line = false)
    (h : f.outcome ≠ .notFound) (mode : Mode) :
    (f.lines mode).filter test
      = (f.steps.map Step.line).filter test ++ [f.verdict mode].filter test := by
  rcases exists_lines h mode with ⟨gap, hlines, hgap⟩
  have hbelow : gap.filter test = [] :=
    filter_of_plain ht fun line hline => hgap line hline ▸ plain_nil
  rw [hlines, List.filter_append, filter_of_plain ht (plain_announcement mode f), List.nil_append,
    List.filter_append, ← List.singleton_append, List.filter_append, hbelow, List.append_nil]

/-- How it ended is said on one line of each file, whatever kind of run it was. -/
theorem filter_isVerdict_lines (mode : Mode) (f : PageReport) :
    (f.lines mode).filter isVerdict = [f.verdict mode] := by
  have hverdict : [f.verdict mode].filter isVerdict = [f.verdict mode] := by
    rw [List.filter_singleton, isVerdict_verdict, cond_true]
  by_cases h : f.outcome = .notFound
  · rw [lines_of_missing h, hverdict]
  · have hsteps : (f.steps.map Step.line).filter isVerdict = [] := by
      refine List.filter_eq_nil_iff.2 (List.forall_mem_map.2 fun step _ => ?_)
      rw [isVerdict_line]
      exact Bool.false_ne_true
    rw [filter_lines (fun line hline => hline.1) h, hsteps, hverdict, List.nil_append]

/-- The lines of a file that begin like steps are its steps, and a file that is missing has
    none. -/
theorem filter_isStepLine_lines (mode : Mode) (f : PageReport) :
    (f.lines mode).filter isStepLine
      = if f.outcome = .notFound then [] else f.steps.map Step.line := by
  have hverdict : [f.verdict mode].filter isStepLine = [] := by
    rw [List.filter_singleton, isStepLine_verdict, cond_false]
  by_cases h : f.outcome = .notFound
  · rw [if_pos h, lines_of_missing h, hverdict]
  · have hsteps : (f.steps.map Step.line).filter isStepLine = f.steps.map Step.line :=
      List.filter_eq_self.2 (List.forall_mem_map.2 fun step _ => isStepLine_line step)
    rw [if_neg h, filter_lines (fun line hline => hline.2) h, hsteps, hverdict, List.append_nil]

/-- The texts of a report are without line feeds, so that each is printed on one line. -/
structure OneLine (f : PageReport) : Prop where
  file : '\n' ∉ f.file
  tag : '\n' ∉ f.tag
  reason : ∀ reason, f.outcome = .failed reason → '\n' ∉ reason

theorem OneLine.verdict (h : f.OneLine) (mode : Mode) : '\n' ∉ f.verdict mode := by
  have hmark : ∀ mark ∈ marks, '\n' ∉ mark := by decide
  have hwording : '\n' ∉ (f.outcome.wording mode).1 ∧ '\n' ∉ (f.outcome.wording mode).2 := by
    cases ho : f.outcome with
    | failed reason =>
        have hfront : '\n' ∉ "Error updating ".toList := by decide
        refine ⟨hfront, fun hmem => ?_⟩
        rcases List.mem_append.1 hmem with hmem | hmem
        · exact absurd hmem (by decide)
        · exact h.reason reason ho hmem
    | _ => cases mode <;> decide
  simp only [PageReport.verdict, List.mem_append, not_or]
  exact ⟨hmark _ (mark_mem_marks f.outcome), hwording.1, h.file, hwording.2⟩

theorem OneLine.announcement (h : f.OneLine) (mode : Mode) :
    ∀ line ∈ announcement mode f, '\n' ∉ line := by
  cases mode with
  | wire =>
      refine List.forall_mem_singleton.2 ?_
      simp only [List.mem_append, not_or]
      exact ⟨⟨⟨⟨by decide, h.file⟩, by decide⟩, h.tag⟩, by decide⟩
  | clean => exact nofun

theorem notMem_stepLine (step : Step) : '\n' ∉ step.line := by
  rcases step with ⟨kind, _ | _ | reason⟩
  · cases kind <;> decide
  · cases kind <;> decide
  · have hmessage : '\n' ∉ reason.message := by cases reason <;> decide
    rw [Step.line, List.mem_append, not_or]
    exact ⟨by decide, hmessage⟩

theorem OneLine.lines (h : f.OneLine) (mode : Mode) : ∀ line ∈ f.lines mode, '\n' ∉ line := by
  by_cases hmissing : f.outcome = .notFound
  · rw [lines_of_missing hmissing, List.forall_mem_singleton]
    exact h.verdict mode
  · rcases exists_lines hmissing mode with ⟨gap, hlines, hgap⟩
    rw [hlines, List.forall_mem_append, List.forall_mem_append, List.forall_mem_cons,
      List.forall_mem_map]
    exact ⟨h.announcement mode, fun step _ => notMem_stepLine step, h.verdict mode,
      fun line hline => hgap line hline ▸ List.not_mem_nil⟩

end PageReport

/-- What is counted together is counted apart if it is for each outcome. -/
theorem countP_eq_add {p q s : Outcome → Bool}
    (h : ∀ o, [o].countP p = [o].countP q + [o].countP s) (outcomes : List Outcome) :
    outcomes.countP p = outcomes.countP q + outcomes.countP s := by
  induction outcomes with
  | nil => rfl
  | cons o os ih =>
      have hcons : o :: os = [o] ++ os := rfl
      rw [hcons, List.countP_append, List.countP_append, List.countP_append, h, ih]
      omega

theorem countP_check (outcomes : List Outcome) :
    outcomes.countP (·.mark == "✓ ".toList) = outcomes.count .updated :=
  List.countP_congr fun o _ => by cases o <;> exact Iff.rfl

/-- Of the skipped files, the missing ones have no arrow. -/
theorem countP_isSkipped (outcomes : List Outcome) :
    outcomes.countP Outcome.isSkipped
      = outcomes.countP (·.mark == "→ ".toList) + outcomes.count .notFound :=
  countP_eq_add (fun o => by cases o <;> rfl) outcomes

/-- Missing files have the mark of the failed ones. -/
theorem countP_cross (outcomes : List Outcome) :
    outcomes.countP (·.mark == "✗ ".toList)
      = outcomes.countP Outcome.isFailed + outcomes.count .notFound :=
  countP_eq_add (fun o => by cases o <;> rfl) outcomes

namespace Report

variable {r : Report}

/-- The lines on the console are those of the files, in order, and the tally. -/
theorem lines_console (h : ∀ f ∈ r.files, f.OneLine) (mode : Mode) :
    (r.console mode).lines
      = r.files.flatMap (PageReport.lines mode) ++ (summaryLines r.summary ++ [[]]) := by
  have hfeedless : ∀ line ∈ r.files.flatMap (PageReport.lines mode) ++ summaryLines r.summary,
      '\n' ∉ line := by
    rw [List.forall_mem_append]
    refine ⟨fun line hline => ?_, fun line hline => (plain_summaryLines r.summary line hline).2⟩
    rcases List.mem_flatMap.1 hline with ⟨f, hf, hline⟩
    exact (h f hf).lines mode line hline
  have hrows := Text.lines_rows_append hfeedless []
  rw [List.append_nil] at hrows
  rw [console, ← Text.rows_eq_flatMap, hrows, List.append_assoc]
  rfl

/-- A test that no plain line passes leaves nothing of the tally, and of the files what it
    leaves of each. -/
theorem filter_console {test : Text → Bool} (ht : ∀ line, Plain line → test line = false)
    (h : ∀ f ∈ r.files, f.OneLine) (mode : Mode) :
    (r.console mode).lines.filter test
      = r.files.flatMap fun f => (f.lines mode).filter test := by
  have htally : (summaryLines r.summary).filter test = [] :=
    filter_of_plain ht fun line hline => (plain_summaryLines r.summary line hline).1
  have hend : [[]].filter test = [] := filter_of_plain ht (List.forall_mem_singleton.2 plain_nil)
  rw [lines_console h, List.filter_append, List.filter_append, htally, hend, List.append_nil,
    List.append_nil, List.filter_flatMap]

/-- The marked lines on the console are one for each file, in order. -/
theorem filter_isVerdict_console (h : ∀ f ∈ r.files, f.OneLine) (mode : Mode) :
    (r.console mode).lines.filter isVerdict = r.files.map (PageReport.verdict mode) := by
  rw [filter_console (fun line hline => hline.1) h, List.map_eq_flatMap]
  exact congrArg r.files.flatMap (funext (PageReport.filter_isVerdict_lines mode))

/-- The step lines on the console are those of the files that exist, in order. -/
theorem filter_isStepLine_console (h : ∀ f ∈ r.files, f.OneLine) (mode : Mode) :
    (r.console mode).lines.filter isStepLine
      = (r.files.filter (·.outcome ≠ .notFound)).flatMap (·.steps.map Step.line) := by
  rw [filter_console (fun line hline => hline.2) h]
  simp only [PageReport.filter_isStepLine_lines]
  -- one more file in front adds its steps to both sides, or is left out on both
  induction r.files with
  | nil => rfl
  | cons f more ih =>
      rw [List.flatMap_cons, ih]
      by_cases hmissing : f.outcome = .notFound
      · rw [if_pos hmissing, List.filter_cons_of_neg (by simpa using hmissing), List.nil_append]
      · rw [if_neg hmissing, List.filter_cons_of_pos (by simpa using hmissing), List.flatMap_cons]

/-- As many lines on the console have a mark as there are files with it. -/
theorem countP_mark_console {mark : Text} (hmark : mark ∈ marks) (h : ∀ f ∈ r.files, f.OneLine)
    (mode : Mode) : (r.console mode).lines.countP (mark.isPrefixOf ·)
      = (r.files.map PageReport.outcome).countP (·.mark == mark) := by
  have hmarked : ∀ line : Text,
      mark.isPrefixOf line = true ↔ (mark.isPrefixOf line && isVerdict line) = true := by
    intro line
    rw [Bool.and_eq_true, iff_self_and]
    exact fun hline => List.any_eq_true.2 ⟨mark, hmark, hline⟩
  calc (r.console mode).lines.countP (mark.isPrefixOf ·)
      = ((r.console mode).lines.filter isVerdict).countP (mark.isPrefixOf ·) := by
        rw [List.countP_filter]
        exact List.countP_congr fun line _ => hmarked line
    _ = r.files.countP fun f => mark.isPrefixOf (f.verdict mode) := by
        rw [filter_isVerdict_console h, List.countP_map]
        rfl
    _ = (r.files.map PageReport.outcome).countP (·.mark == mark) := by
        rw [List.countP_map]
        exact List.countP_congr fun f _ => by rw [isPrefixOf_verdict hmark]; rfl

/-- What the lines on the console say agrees with the tally. -/
structure ShowsTally (mode : Mode) (r : Report) : Prop where
  updated : (r.console mode).lines.countP ("✓ ".toList.isPrefixOf ·) = r.summary.updated
  kept : (r.console mode).lines.countP ("→ ".toList.isPrefixOf ·)
    = r.summary.skipped - r.summary.notFound
  /-- A missing file is a skipped one, so the difference is not cut off. -/
  notFound_le : r.summary.notFound ≤ r.summary.skipped
  lost : (r.console mode).lines.countP ("✗ ".toList.isPrefixOf ·)
    = r.summary.errors + r.summary.notFound
  /-- One marked line for each file, in order, which names it. -/
  pages : (r.console mode).lines.filter isVerdict = r.files.map (PageReport.verdict mode)
  /-- One line for each step of a file that is not missing. -/
  steps : (r.console mode).lines.countP isStepLine
    = ((r.files.filter (·.outcome ≠ .notFound)).map (·.steps.length)).sum

/-- The console agrees with the tally, for both kinds of run and whatever the steps and the
    outcomes are. -/
theorem console_showsTally (mode : Mode) (r : Report) (h : ∀ f ∈ r.files, f.OneLine)
    (hsummary : r.summary = .ofOutcomes (r.files.map PageReport.outcome)) :
    r.ShowsTally mode := by
  have hmarks : ∀ mark ∈ marks, (r.console mode).lines.countP (mark.isPrefixOf ·)
      = (r.files.map PageReport.outcome).countP (·.mark == mark) :=
    fun mark hmark => countP_mark_console hmark h mode
  simp only [marks, List.forall_mem_cons] at hmarks
  rcases hmarks with ⟨hcheck, harrow, hcross, -⟩
  have hskipped := countP_isSkipped (r.files.map PageReport.outcome)
  rw [Summary.ofOutcomes_eq] at hsummary
  refine ⟨?_, ?_, ?_, ?_, filter_isVerdict_console h mode, ?_⟩
  · rw [hcheck, countP_check, hsummary]
  · rw [harrow, hsummary]
    simp only
    omega
  · rw [hsummary]
    simp only
    omega
  · rw [hcross, countP_cross, hsummary]
  · rw [List.countP_eq_length_filter, filter_isStepLine_console h, List.length_flatMap]
    simp only [List.length_map]

/-- A file for each outcome. The second one is named like the line of a file that was changed,
    and the third one has a step although it is missing. -/
def fourFiles : List PageReport :=
  [⟨"A.tsx".toList, "a".toList, [⟨.imports, .alreadyPresent⟩, ⟨.hook, .added⟩,
      ⟨.component, .anchorNotFound .noClosingBlock⟩], .updated⟩,
    ⟨"✓ B.tsx updated successfully".toList, "b".toList, [⟨.hook, .alreadyPresent⟩], .upToDate⟩,
    ⟨"C.tsx".toList, "c".toList, [⟨.hook, .added⟩], .notFound⟩,
    ⟨"D.tsx".toList, "d".toList, [], .failed "✗ ".toList⟩]

theorem oneLine_fourFiles : ∀ f ∈ fourFiles, f.OneLine := by
  simp only [fourFiles, List.forall_mem_cons]
  refine ⟨⟨by decide, by decide, nofun⟩, ⟨by decide, by decide, nofun⟩,
    ⟨by decide, by decide, nofun⟩, ⟨by decide, by decide, fun reason hreason => ?_⟩, nofun⟩
  obtain rfl := Outcome.failed.inj hreason
  decide

theorem console_showsTally_fourFiles :
    (∀ f ∈ (ofFiles fourFiles).files, f.OneLine)
    ∧ (ofFiles fourFiles).summary
      = .ofOutcomes ((ofFiles fourFiles).files.map PageReport.outcome)
    ∧ (ofFiles fourFiles).ShowsTally .wire :=
  ⟨oneLine_fourFiles, rfl, console_showsTally .wire (ofFiles fourFiles) oneLine_fourFiles rfl⟩

/-- What is behind a line feed in a name is taken for the line of another file. -/
example :
    let r := ofFiles [⟨"A.tsx\n✓ B.tsx".toList, "a".toList, [], .notFound⟩]
    (r.console .clean).lines.countP ("✓ ".toList.isPrefixOf ·) = 1 ∧ r.summary.updated = 0 := by
  decide +kernel

end Report

end HelpWiring
