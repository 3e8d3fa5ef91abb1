import HelpWiring.Text.Lines

/-!
# Faults

What can go wrong, by where it comes from, and the one function that puts it
into words. A fault of a single page never gets further than that page's
report; a fault of the catalog ends the run before it starts.

## Main definitions

* `Fault`: What can go wrong in the library.
* `CommandFault`: What can go wrong in the program.
* `Fault.message`, `CommandFault.message`: The wording.
-/

namespace HelpWiring

/-- What can go wrong in the library. -/
inductive Fault
  /-- The operating system refused something. -/
  | system (reason : Text)
  /-- The catalog cannot be used. -/
  | catalog (reason : Text)
  /-- The catalog file holds no mapping of texts. -/
  | notAMapping
  /-- The report cannot be written down. -/
  | report (reason : Text)
  /-- Anything else. -/
  | general (reason : Text)
  deriving DecidableEq

/-- The wording of a fault. -/
def Fault.message : Fault → Text
  | system reason => "IO Error: ".toList ++ reason
  | catalog reason => "Catalog Error: ".toList ++ reason
  | notAMapping => "YAML Error: not a mapping of texts".toList
  | report reason => "JSON Error: ".toList ++ reason
  | general reason => "General Error: ".toList ++ reason

/-- What can go wrong in the program. -/
inductive CommandFault
  /-- Something in the library. -/
  | library (fault : Fault)
  /-- Anything else. -/
  | general (reason : Text)
  deriving DecidableEq

/-- The wording of a fault of the program. -/
def CommandFault.message : CommandFault → Text
  | library fault => fault.message
  | general reason => "Operation failed: ".toList ++ reason

end HelpWiring
