import HelpWiring.Command.Arguments
import HelpWiring.Report.Console
import HelpWiring.Report.Json

/-!
# Running the Command

A line that makes sense is carried out, on any disk. Only the catalog can stop
a run: if it cannot be used, nothing is printed and no page is touched. What
happens to single pages never does; it is in the report, which is printed as
text or as JSON. A line that asks for the version or for help gets its words,
and no file is looked at.

## Main definitions

* `Ending`: How the program ends.
* `Ending.code`, `Ending.output`, `Ending.complaint`: Its exit status, and what
  it prints on either channel.
* `Job.run`: A run.
* `command`: A whole line.
-/

namespace HelpWiring

/-- How the program ends. -/
inductive Ending
  /-- The line makes no sense. -/
  | misused
  /-- The catalog cannot be used. -/
  | refused (fault : Fault)
  /-- All is done, with words for the output. -/
  | done (output : Text)
  deriving DecidableEq

/-- A reason in quotes behind the word for its kind. -/
def named (kind : String) (reason : Text) : Text := kind.toList ++ '(' :: (reason.quoted ++ [')'])

/-- What is said about a fault that stops a run. What exactly makes a text no
    mapping is left open. -/
def Fault.complaint (fault : Fault) : Text :=
  let opening := "Error: Core(".toList
  let closing := ")\n".toList
  match fault with
  | .notAMapping => opening ++ "Yaml(".toList
  | .catalog reason => opening ++ named "Catalog" reason ++ closing
  | .system reason => opening ++ named "Io" reason ++ closing
  | .report reason => opening ++ named "Json" reason ++ closing
  | .general reason => opening ++ named "General" reason ++ closing

namespace Ending

/-- The exit status. -/
def code : Ending → Nat
  | misused => 2
  | refused _ => 1
  | done _ => 0

/-- What is printed on the output channel. -/
def output : Ending → Text
  | misused => []
  | refused _ => []
  | done text => text

/-- What is printed on the error channel. -/
def complaint : Ending → Text
  | misused => "error: these arguments make no sense\n".toList
  | refused fault => fault.complaint
  | done _ => []

end Ending

/-- The name and the version of the program. -/
def versionLine : Text := "pagepatch-cli 0.1.0\n".toList

/-- The words in front of a report on the console. -/
def heading (mode : Mode) (pages : Nat) : Text :=
  match mode with
  | .wire =>
    "Updating ".toList ++ Text.ofNat pages
      ++ " page files with help popup integration...\n\n".toList
  | .clean =>
    "Removing duplicate imports from ".toList ++ Text.ofNat pages ++ " pages...\n\n".toList

/-- What is printed about a run. -/
def printed (job : Job) (pages : Nat) (report : Report) : Text :=
  if job.json then report.json ++ ['\n'] else heading job.mode pages ++ report.console job.mode

section

variable {m : Type → Type} [Monad m]

/-- The catalog of a run. -/
def Job.catalog (disk : Disk m) (job : Job) : m (Except Fault Catalog) :=
  match job.catalogPath with
  | none => return .ok .standard
  | some path => loadCatalog disk path

/-- The report of a run over a catalog. -/
def Job.report (disk : Disk m) (job : Job) (catalog : Catalog) : m Report :=
  let batch : Batch := ⟨job.root, catalog, job.wanted⟩
  match job.mode with
  | .wire => batch.wire disk
  | .clean => batch.clean disk

/-- Carries out a run. -/
def Job.run (disk : Disk m) (job : Job) : m Ending := do
  match ← job.catalog disk with
  | .error fault => return .refused fault
  | .ok catalog =>
    let report ← job.report disk catalog
    return .done (printed job catalog.entries.length report)

/-- Carries out a line, given the words of help and the root that the environment
    names. -/
def command (disk : Disk m) (manual : Manual) (args : List Text) (environment : Option Text) :
    m Ending :=
  match Request.ofArguments? args environment with
  | none => return .misused
  | some .version => return .done versionLine
  | some (.help topic long) => return .done (manual topic long)
  | some (.work job) => job.run disk

end

end HelpWiring
