import HelpWiring.Report.Basic

/-!
# Reports on the Console

A report as lines of text: what happened to each file, then the tally between
two rules. Each file has one line that starts with a mark: a check for a file
that was changed, an arrow for one that was left alone, a cross for one that
is missing or failed. The steps of a file stand before that line, each after
two spaces. Runs that put fragments in announce each file and leave an empty
line after it.

## Main definitions

* `Step.line`: The line of a step.
* `PageReport.lines`: The lines of a page.
* `summaryLines`: The tally.
* `Report.console`: The whole report.
-/

namespace HelpWiring

/-- A word with a capital at its front. -/
def capitalized : Text → Text
  | [] => []
  | c :: rest => c.toUpper :: rest

/-- The line of a step. -/
def Step.line (step : Step) : Text :=
  match step.status with
  | .added => "  ✓ Added ".toList ++ step.kind.name
  | .alreadyPresent => "  ✓ ".toList ++ capitalized step.kind.name ++ " already present".toList
  | .anchorNotFound reason => "  ⚠ ".toList ++ reason.message

/-- The lines that say how it ended for a file that exists. -/
def outcomeLines (mode : Mode) (file : Text) : Outcome → List Text
  | .updated =>
    match mode with
    | .wire => ["✓ ".toList ++ file ++ " updated successfully".toList, []]
    | .clean => ["✓ ".toList ++ file ++ ": Removed duplicate imports".toList]
  | .upToDate =>
    match mode with
    | .wire => ["→ ".toList ++ file ++ " already up to date".toList, []]
    | .clean => ["→ ".toList ++ file ++ ": No duplicates found".toList]
  | .failed reason => ["✗ Error updating ".toList ++ file ++ ": ".toList ++ reason, []]
  | .notFound => []

/-- The line that announces a file. -/
def announcement (mode : Mode) (f : PageReport) : List Text :=
  match mode with
  | .wire => ["Updating ".toList ++ f.file ++ " (pageKey: ".toList ++ f.tag ++ ")...".toList]
  | .clean => []

/-- The lines of a file. -/
def PageReport.lines (mode : Mode) (f : PageReport) : List Text :=
  match f.outcome with
  | .notFound => ["✗ ".toList ++ f.file ++ ": File not found".toList]
  | outcome => announcement mode f ++ f.steps.map Step.line ++ outcomeLines mode f.file outcome

/-- The rule above and below the tally. -/
def rule : Text := List.replicate 60 '='

/-- The lines of the tally. Missing files are mentioned if there are any. -/
def summaryLines (s : Summary) : List Text :=
  [[], rule, "Summary:".toList, "  Updated: ".toList ++ Text.ofNat s.updated,
    "  Skipped: ".toList ++ Text.ofNat s.skipped]
  ++ (if 0 < s.notFound then ["    (not found: ".toList ++ Text.ofNat s.notFound ++ [')']] else [])
  ++ ["  Errors: ".toList ++ Text.ofNat s.errors, rule]

/-- A report as lines of text, each with a line feed at its end. -/
def Report.console (mode : Mode) (r : Report) : Text :=
  (r.files.flatMap (PageReport.lines mode) ++ summaryLines r.summary).flatMap (· ++ ['\n'])

end HelpWiring
