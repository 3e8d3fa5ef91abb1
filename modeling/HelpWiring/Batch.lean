import HelpWiring.Catalog.Standard
import HelpWiring.Disk.Access
import HelpWiring.Page.Cleaning
import HelpWiring.Report.Basic

/-!
# Batch Runs

A run visits the pages of a catalog one by one, in order. At each page it asks
whether the file is there, reads it, works out the new text, and writes that
only if it differs. Whatever goes wrong with a page goes into the report of
that page, and the run goes on.

There are two kinds of run, and they differ only in the work done on a text:
putting the wanted fragments in, or removing repeated imports.

Runs are written for any `Disk`. On a file tree a run is a function from trees
to trees, and `FileTree.visitAll_cons` opens it page by page: the first page on
the tree, the others on the tree it leaves.

## Main definitions

* `Batch`: The root, the catalog and the wanted fragments.
* `Work`: What is done to the text of a page.
* `visitPage`: One page.
* `wirePage`, `cleanPage`: One page, for either kind of work.
* `visitPages`: The pages of a catalog.
* `Batch.wire`, `Batch.clean`: A whole run.
* `loadCatalog`: A catalog file.
* `FileTree.visit`, `FileTree.visitAll`: Pages on a file tree.

## Theorems

* `visitAll_cons`: A run on a file tree, page by page.
-/

namespace HelpWiring

/-- Where the pages are if nobody says. -/
def standardRoot : Text := "apps/web/src/pages".toList

/-- What a run is about. -/
structure Batch where
  root : Text
  catalog : Catalog
  wanted : Selection
  deriving DecidableEq

/-- The path of a page. -/
def Batch.pathTo (b : Batch) (e : Entry) : Text := joinPath b.root e.file

/-- What is done to the text of a page: the new text, and the steps to report. -/
abbrev Work := Entry → Text → Text × List Step

/-- Putting the wanted fragments in. -/
def wiring (wanted : Selection) : Work := fun e page =>
  let w := Page.wire page e.tag wanted
  (w.content, w.steps)

/-- Removing repeated imports. -/
def cleaning : Work := fun _ page => (Page.clean page, [])

/-- The report of a page that no work was done on. -/
def bareReport (e : Entry) (outcome : Outcome) : PageReport := ⟨e.file, e.tag, [], outcome⟩

/-- Why a page could not be read or written. -/
inductive PageFault
  | unreadable (path reason : Text)
  | unwritable (path reason : Text)
  deriving DecidableEq

/-- The wording. -/
def PageFault.message : PageFault → Text
  | unreadable path reason =>
    "Failed to read file ".toList ++ path.quoted ++ ": ".toList ++ reason
  | unwritable path reason =>
    "Failed to write file ".toList ++ path.quoted ++ ": ".toList ++ reason

/-- The fault as one of the library. -/
def PageFault.toFault (f : PageFault) : Fault := .general f.message

/-- The report that stands for a fault. -/
def reportOf (e : Entry) : Except Fault PageReport → PageReport
  | .ok report => report
  | .error fault => bareReport e (.failed fault.message)

section

variable {m : Type → Type} [Monad m]

/-- Works on one page: reads it if it is there, and writes it if it changes. -/
def visitPage (disk : Disk m) (work : Work) (root : Text) (e : Entry) :
    m (Except Fault PageReport) := do
  let path := joinPath root e.file
  -- a path that leads nowhere is missing, whatever the reason
  if ← disk.holds path then
    match ← disk.read path with
    | .error reason => return .error (PageFault.unreadable path reason).toFault
    | .ok page =>
      let (new, steps) := work e page
      if new = page then return .ok ⟨e.file, e.tag, steps, .upToDate⟩
      else match ← disk.write path new with
        | .error reason => return .error (PageFault.unwritable path reason).toFault
        | .ok () => return .ok ⟨e.file, e.tag, steps, .updated⟩
  else return .ok (bareReport e .notFound)

/-- Puts the wanted fragments into one page. -/
def wirePage (disk : Disk m) (root : Text) (wanted : Selection) (e : Entry) :
    m (Except Fault PageReport) :=
  visitPage disk (wiring wanted) root e

/-- Removes repeated imports from one page. -/
def cleanPage (disk : Disk m) (root : Text) (e : Entry) : m (Except Fault PageReport) :=
  visitPage disk cleaning root e

/-- Works on the pages of some entries, in order. -/
def visitPages (disk : Disk m) (work : Work) (root : Text) : List Entry → m (List PageReport)
  | [] => return []
  | e :: rest => do
    let result ← visitPage disk work root e
    let reports ← visitPages disk work root rest
    return reportOf e result :: reports

/-- Puts the wanted fragments into every page. -/
def Batch.wire (disk : Disk m) (b : Batch) : m Report := do
  let files ← visitPages disk (wiring b.wanted) b.root b.catalog.entries
  return .ofFiles files

/-- Removes repeated imports from every page. -/
def Batch.clean (disk : Disk m) (b : Batch) : m Report := do
  let files ← visitPages disk cleaning b.root b.catalog.entries
  return .ofFiles files

/-- Reads a catalog file. -/
def loadCatalog (disk : Disk m) (path : Text) : m (Except Fault Catalog) := do
  match ← disk.read path with
  | .error reason => return .error (CatalogFault.unreadable path reason).toFault
  | .ok text => return Catalog.ofYaml text

end

namespace FileTree

/-- The report of one page and the tree after it. -/
def visit (work : Work) (root : Text) (e : Entry) (tree : FileTree) : PageReport × FileTree :=
  let (result, tree) := visitPage disk work root e tree
  (reportOf e result, tree)

/-- The reports of some pages and the tree after them. -/
def visitAll (work : Work) (root : Text) (es : List Entry) (tree : FileTree) :
    List PageReport × FileTree :=
  visitPages disk work root es tree

theorem visitAll_cons (work : Work) (root : Text) (e : Entry) (es : List Entry)
    (tree : FileTree) :
    visitAll work root (e :: es) tree
      = ((visit work root e tree).1 :: (visitAll work root es (visit work root e tree).2).1,
        (visitAll work root es (visit work root e tree).2).2) := rfl

end FileTree

end HelpWiring
