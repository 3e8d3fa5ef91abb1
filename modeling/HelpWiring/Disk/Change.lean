import HelpWiring.Disk.Tree

/-!
# Preparing and Comparing File Trees

Trees are prepared by putting nodes at paths, with the folders on the way, and
by taking nodes away, with all that is under them. A node that cannot be put
where it should go is refused for the reason that the operating system would
give; folders made on the way stay. Two trees are compared node by node, as far
as these are under the working folder; a link is compared as a link.

## Main definitions

* `Change`: A change of a tree that may be refused.
* `FileTree.bare`: A tree to begin with.
* `FileTree.openedAt`: The file that a path opens for writing.
* `FileTree.namedAt`: Where a path says that its last name is.
* `FileTree.makeFolders`: The folders on the way.
* `FileTree.create`: A node at a path.
* `FileTree.remove?`: A path without its node.
* `FileTree.changes`: What differs between two trees.
* `pathOf`: The path of an address under a folder.
-/

namespace HelpWiring

/-- The path of an address from a folder that it is under. -/
def pathOf (home a : Address) : Text :=
  Text.glue '/' (a.take (a.length - home.length)).reverse

/-- A change of a tree. It may be refused when a part of it is done. -/
abbrev Change := ExceptT PathFault (StateM FileTree)

/-- Refuses a change for a reason, if there is one. -/
def refuse : Option PathFault → Change Unit
  | some fault => throw fault
  | none => pure ()

/-- Whether a path has something behind its last name that asks for a folder. -/
def asksForFolder (path : Text) : Bool := ((path.cut '/').getLast?).any staysHere

/-- Whether the last of some names is a dot, slashes behind it aside. -/
def endsInDot (names : List Text) : Bool :=
  (names.reverse.dropWhile fun name => name == []).head? == some ['.']

/-- The folders that lead to an address. -/
def foldersTo : Address → List (Address × Node)
  | [] => []
  | name :: above => (name :: above, .openFolder) :: foldersTo above

namespace FileTree

/-- A tree with a working folder and nothing in it. -/
def bare (home : Address) : FileTree := ⟨foldersTo home, home⟩

/-- Whether a folder is at an address. -/
def hasFolder (tree : FileTree) (a : Address) : Bool :=
  match tree.node? a with
  | some (.folder _ _) => true
  | _ => false

/-- The folder that some names lead to. -/
def folderFrom (tree : FileTree) (start : Address) (names : List Text) :
    Except PathFault Address := do
  let a ← tree.walk maxLinks start names
  if tree.hasFolder a then return a
  else if (tree.node? a).isSome then throw .notAFolder
  else throw .missing

/-- The address of the file that a path opens for writing. Links are followed to
    where they lead, and a file that is missing there is yet to be made. -/
def openedAt (tree : FileTree) (path : Text) : Except PathFault Address := do
  if path.getLast? = some '/' then throw .isAFolder
  let a ← tree.locate path
  if tree.hasFolder a then throw .isAFolder else return a

/-- The address that a path names, its last name not followed. Slashes behind that
    name do not count. -/
def namedAt (tree : FileTree) (path : Text) : Except PathFault Address :=
  match (path.cut '/').reverse.dropWhile staysHere with
  | [] => throw (if path = [] then .missing else .taken)
  | name :: above => do
    let a ← tree.folderFrom (Address.start tree.home path) above.reverse
    if goesUp name then throw .taken
    else if maxNameOctets < octets name then throw .tooLong
    else return name :: a

/-- Makes the folders that are missing along some names, and tells where they end. A
    link on the way is followed, but what it leads to is not made. `made` tells whether
    a folder has been made already.

    A whole path is tried before the parts of it. So what stands in the way of a path
    is named by its kind, but as taken once parts are being made. -/
def makeFolders (made : Bool) : Address → List Text → Change Address
  | here, [] => pure here
  | here, name :: rest =>
    if staysHere name then makeFolders made here rest
    else if goesUp name then makeFolders made here.tail rest
    else if maxNameOctets < octets name then throw .tooLong
    else do
      let tree ← get
      match tree.node? (name :: here) with
      | none =>
        modify fun tree => tree.set (name :: here) .openFolder
        makeFolders true (name :: here) rest
      | some (.folder _ _) => makeFolders made (name :: here) rest
      | some _ =>
        match tree.folderFrom here [name] with
        | .ok a => makeFolders made a rest
        | .error fault =>
          throw (if made || rest.all staysHere || fault == .missing then .taken else fault)

/-- Puts a node at a path, with the folders on the way. A file takes the place of a
    file, and goes where a link leads; a folder may be there already; a link needs its
    place to be free. -/
def create (path : Text) (n : Node) : Change Unit := do
  let start := Address.start (← get).home path
  let names := path.cut '/'
  if path ≠ [] then refuse (refusal? path)
  let _ ← makeFolders false start (names.reverse.dropWhile staysHere).tail.reverse
  -- a folder that is named by a dot in it has to be there
  if endsInDot names then discard (ofExcept ((← get).folderFrom start names))
  match n with
  | .folder _ _ =>
    let _ ← makeFolders false start names
    discard (ofExcept ((← get).folderFrom start names))
  | .file _ _ _ =>
    let a ← ofExcept ((← get).openedAt path)
    modify fun tree => tree.set a n
  | .link target =>
    refuse (refusal? target)
    let a ← ofExcept ((← get).namedAt path)
    if ((← get).node? a).isSome then throw .taken
    if asksForFolder path then throw .missing
    modify fun tree => tree.set a n

/-- The address of the node that a path names. A slash behind the name asks for a
    folder. -/
def addressOf? (tree : FileTree) (path : Text) : Option Address :=
  match tree.namedAt path with
  | .error _ => none
  | .ok a =>
    if tree.hasFolder a ∨ (tree.node? a).isSome ∧ !asksForFolder path then some a else none

/-- The tree without the node at a path and all that is under it, if there is
    one. -/
def remove? (tree : FileTree) (path : Text) : Option FileTree :=
  (tree.addressOf? path).map fun a =>
    { tree with nodes := tree.nodes.filter fun p => !a.isSuffixOf p.1 }

/-- The nodes under the working folder. -/
def inHome (tree : FileTree) : List (Address × Node) :=
  tree.nodes.filter fun (a, _) => a != tree.home && tree.home.isSuffixOf a

/-- What differs between two trees: the paths with new or changed nodes, and
    those whose nodes are gone. -/
def changes (before after : FileTree) : List (Text × Option Node) :=
  let changed := after.inHome.filter fun (a, n) => before.node? a != some n
  let gone := before.inHome.filter fun (a, _) => (after.node? a).isNone
  changed.map (fun (a, n) => (pathOf before.home a, some n))
    ++ gone.map fun (a, _) => (pathOf before.home a, none)

end FileTree

end HelpWiring
