import HelpWiring.Fault
import HelpWiring.Text.Blank
import HelpWiring.Text.Quoted
import HelpWiring.Yaml.Mapping

/-!
# Catalogs

A catalog lists the pages to wire, each with its tag. It is made from pairs of
a file name and a tag: none of them may be blank, and no file may come twice.
Names are compared as they are written and kept as they are written, blanks
around them included. The first pair at fault decides what is reported, and
within a pair a blank name comes before a blank tag and a blank tag before a
repeated name.

A catalog file is a YAML mapping from file names to tags.

## Main definitions

* `Entry`, `Catalog`: Pages and their tags.
* `CatalogFault`: Why pairs or a file make no catalog.
* `Catalog.ofPairs`: A catalog out of pairs.
* `Catalog.ofYaml`: A catalog out of the text of a catalog file.
-/

namespace HelpWiring

/-- A page file and the tag its help text is kept under. -/
structure Entry where
  file : Text
  tag : Text
  deriving DecidableEq

/-- The pages to wire, in order. -/
structure Catalog where
  entries : List Entry
  deriving DecidableEq

/-- Why there is no catalog. -/
inductive CatalogFault
  /-- A file name is blank. -/
  | blankFile
  /-- The tag of a file is blank. -/
  | blankTag (file : Text)
  /-- A file comes twice. -/
  | repeatedFile (file : Text)
  /-- The catalog file cannot be read. -/
  | unreadable (path reason : Text)
  deriving DecidableEq

namespace CatalogFault

/-- The wording. -/
def message : CatalogFault → Text
  | blankFile => "empty file name".toList
  | blankTag file => "empty tag for '".toList ++ file ++ ['\'']
  | repeatedFile file => "duplicate file '".toList ++ file ++ ['\'']
  | unreadable path reason =>
    "Failed to read catalog ".toList ++ path.quoted ++ ": ".toList ++ reason

/-- The fault as one of the library. -/
def toFault (f : CatalogFault) : Fault := .catalog f.message

end CatalogFault

namespace Catalog

/-- What is wrong with a pair, given the file names before it. -/
def pairFault? (seen : List Text) (file tag : Text) : Option CatalogFault :=
  if file.isAllBlank then some .blankFile
  else if tag.isAllBlank then some (.blankTag file)
  else if file ∈ seen then some (.repeatedFile file)
  else none

/-- Entries out of pairs, given the file names before them. -/
def entriesAfter (seen : List Text) : List (Text × Text) → Except CatalogFault (List Entry)
  | [] => .ok []
  | (file, tag) :: rest =>
    match pairFault? seen file tag with
    | some fault => .error fault
    | none => (entriesAfter (file :: seen) rest).map (⟨file, tag⟩ :: ·)

/-- A catalog out of pairs of a file name and a tag. -/
def ofPairs (pairs : List (Text × Text)) : Except CatalogFault Catalog :=
  (entriesAfter [] pairs).map (⟨·⟩)

/-- A catalog out of the text of a catalog file. -/
def ofYaml (text : Text) : Except Fault Catalog :=
  match Yaml.mapping? text with
  | none => .error .notAMapping
  | some pairs => (ofPairs pairs).mapError CatalogFault.toFault

end Catalog

end HelpWiring
