import HelpWiring.Text.Octets

/-!
# File Trees

The files of a machine, as a value. A tree holds folders, files and symbolic
links, each at an address: the names that lead to it from the root folder. A
path is a text, and what it leads to depends on the tree, because links are
followed on the way, the last one too. A path that starts with a slash starts
at the root, and any other one at the working folder. Two dots lead to the
folder above, and from the root to the root itself.

`locate` walks a path name by name, and `resolve` asks for a node where the walk
ends. A name is looked up in a folder only if the folder may be entered, and
this is asked for a dot and for two dots as well. What a file holds is read or
written only if the file allows it.

A file holds a text or octets that are no text. Only the difference matters
here: text can be read, and what is written is text.

The frame of a write is `node_set_self` and `node_set_other`: the one address
changes and no other does.

## Main definitions

* `Node`: A folder, a file or a link.
* `FileTree`: Nodes at their addresses, and the working folder.
* `PathFault`: Why a path leads nowhere, or to nothing that can be used.
* `FileTree.locate`, `FileTree.resolve`: Where a path leads.
* `FileTree.read`, `FileTree.write`: The text of a file, and a new one.
* `joinPath`: A file name under a root.

## Theorems

* `node_set_self`, `node_set_other`: What a changed node changes.
-/

namespace HelpWiring

/-- The names that lead to a node from the root folder, the innermost one first. -/
abbrev Address := List Text

/-- What a file holds. -/
inductive Contents
  | text (t : Text)
  /-- Octets that are not UTF-8. -/
  | binary (octets : List UInt8)
  deriving DecidableEq

/-- What a file with some octets holds. -/
def Contents.ofOctets (octets : ByteArray) : Contents :=
  match String.fromUTF8? octets with
  | some t => .text t.toList
  | none => .binary octets.toList

/-- A folder, a file or a symbolic link. A folder may be listed and entered, and a file
    be read and written, or not. -/
inductive Node
  | folder (readable enterable : Bool)
  | file (readable writable : Bool) (contents : Contents)
  | link (target : Text)
  deriving DecidableEq

/-- A folder that anything may be done with. -/
def Node.openFolder : Node := .folder true true

/-- A file that anything may be done with. -/
def Node.openFile (contents : Contents) : Node := .file true true contents

/-- Nodes at their addresses, and the folder that paths start from. The root folder needs
    no entry. -/
structure FileTree where
  nodes : List (Address × Node)
  home : Address
  deriving DecidableEq

/-- A node in front of the others, or in place of the one at its address. -/
def setNode (a : Address) (n : Node) : List (Address × Node) → List (Address × Node)
  | [] => [(a, n)]
  | (b, old) :: rest => if b = a then (a, n) :: rest else (b, old) :: setNode a n rest

/-- The node at an address. -/
def findNode (a : Address) : List (Address × Node) → Option Node
  | [] => none
  | (b, n) :: rest => if b = a then some n else findNode a rest

theorem findNode_setNode_self (a : Address) (n : Node) (nodes : List (Address × Node)) :
    findNode a (setNode a n nodes) = some n := by
  induction nodes with
  | nil => simp only [setNode, findNode, if_true]
  | cons p rest ih =>
      obtain ⟨b, old⟩ := p
      by_cases h : b = a
      · simp only [setNode, if_pos h, findNode, if_true]
      · simp only [setNode, if_neg h, findNode, ih]

theorem findNode_setNode_other {a b : Address} (h : b ≠ a) (n : Node)
    (nodes : List (Address × Node)) : findNode b (setNode a n nodes) = findNode b nodes := by
  induction nodes with
  | nil => simp only [setNode, findNode, if_neg (Ne.symm h)]
  | cons p rest ih =>
      obtain ⟨c, old⟩ := p
      by_cases hc : c = a
      · subst hc
        simp only [setNode, if_true, findNode, if_neg (Ne.symm h)]
      · simp only [setNode, if_neg hc, findNode, ih]

/-- Why a path leads nowhere, or to nothing that can be read. -/
inductive PathFault
  /-- A name is missing. -/
  | missing
  /-- A file is used as a folder. -/
  | notAFolder
  /-- A folder is used as a file. -/
  | isAFolder
  /-- The path or one of its names is too long. -/
  | tooLong
  /-- Links lead around in a circle, or too many follow each other. -/
  | tooManyLinks
  /-- Something else is there already. -/
  | taken
  /-- The path holds the null character. -/
  | nullInName
  /-- What is asked for is not allowed. -/
  | denied
  /-- The file holds no text. -/
  | notText
  deriving DecidableEq

/-- The words of the operating system for a fault. -/
def PathFault.message : PathFault → Text
  | missing => "No such file or directory (os error 2)".toList
  | notAFolder => "Not a directory (os error 20)".toList
  | isAFolder => "Is a directory (os error 21)".toList
  | tooLong => "File name too long (os error 36)".toList
  | tooManyLinks => "Too many levels of symbolic links (os error 40)".toList
  | taken => "File exists (os error 17)".toList
  | nullInName => "file name contained an unexpected NUL byte".toList
  | denied => "Permission denied (os error 13)".toList
  | notText => "stream did not contain valid UTF-8".toList

/-- The folder that a path starts from when it is used in a folder. -/
def Address.start (here : Address) (path : Text) : Address :=
  if path.head? = some '/' then [] else here

/-- Names have at most this many octets. -/
def maxNameOctets : Nat := 255

/-- Paths have fewer octets than this. -/
def maxPathOctets : Nat := 4096

/-- At most this many links are followed on the way. -/
def maxLinks : Nat := 40

/-- Why a path is refused without a look at any tree. -/
def refusal? (path : Text) : Option PathFault :=
  if path = [] then some .missing
  else if path.contains '\x00' then some .nullInName
  else if maxPathOctets ≤ octets path then some .tooLong
  else none

/-- The name of the folder itself, and what an extra slash leaves between it and
    the next one. -/
def staysHere (name : Text) : Bool := name == [] || name == ['.']

/-- The name of the folder above. -/
def goesUp (name : Text) : Bool := name == ['.', '.']

namespace FileTree

/-- The node at an address. The root folder is there without an entry too. -/
def node? (tree : FileTree) (a : Address) : Option Node :=
  match findNode a tree.nodes with
  | some n => some n
  | none => if a = [] then some .openFolder else none

/-- A node at an address, in place of what is there. -/
def set (tree : FileTree) (a : Address) (n : Node) : FileTree :=
  { tree with nodes := setNode a n tree.nodes }

theorem node_set_self (tree : FileTree) (a : Address) (n : Node) :
    (tree.set a n).node? a = some n := by
  rw [node?, set, findNode_setNode_self]

theorem node_set_other {tree : FileTree} {a b : Address} (h : b ≠ a) (n : Node) :
    (tree.set a n).node? b = tree.node? b := by
  rw [node?, node?, set, findNode_setNode_other h]

/-- Why no name can be looked up at an address. -/
def closed? (tree : FileTree) (here : Address) : Option PathFault :=
  match tree.node? here with
  | some (.folder _ true) => none
  | some (.folder _ false) => some .denied
  | some _ => some .notAFolder
  | none => some .missing

/-- Walks along names from a folder. A link is handed to `follow` together with
    the folder it is in and the names after it. Nothing has to be at the last name:
    the walk ends where it would be. -/
def walkWith (follow : Address → Text → List Text → Except PathFault Address) (tree : FileTree) :
    Address → List Text → Except PathFault Address
  | here, [] => .ok here
  | here, name :: rest =>
    -- an extra slash asks for nothing
    if name = [] then walkWith follow tree here rest
    else match tree.closed? here with
      | some fault => .error fault
      | none =>
        if staysHere name then walkWith follow tree here rest
        else if goesUp name then walkWith follow tree here.tail rest
        else if maxNameOctets < octets name then .error .tooLong
        else match tree.node? (name :: here) with
          | none => if rest = [] then .ok (name :: here) else .error .missing
          | some (.folder _ _) => walkWith follow tree (name :: here) rest
          | some (.file _ _ _) =>
            -- even a slash at the end asks for a folder
            if rest = [] then .ok (name :: here) else .error .notAFolder
          | some (.link target) => follow here target rest

/-- Walks along names, following at most some number of links. -/
def walk (tree : FileTree) : Nat → Address → List Text → Except PathFault Address
  | 0 => walkWith (fun _ _ _ => .error .tooManyLinks) tree
  | links + 1 =>
    walkWith (fun here target rest =>
      walk tree links (Address.start here target) (target.cut '/' ++ rest)) tree

/-- Where a path leads, even if nothing is there. -/
def locate (tree : FileTree) (path : Text) : Except PathFault Address :=
  match refusal? path with
  | some fault => .error fault
  | none => tree.walk maxLinks (Address.start tree.home path) (path.cut '/')

/-- Where a path leads, if something is there. -/
def resolve (tree : FileTree) (path : Text) : Except PathFault Address := do
  let a ← tree.locate path
  if (tree.node? a).isSome then return a else throw .missing

/-- Whether a path leads anywhere. -/
def holds (tree : FileTree) (path : Text) : Bool := (tree.resolve path).toBool

/-- The address of the file that a path leads to. -/
def fileAt (tree : FileTree) (path : Text) : Except PathFault Address := do
  let a ← tree.resolve path
  match tree.node? a with
  | some (.file _ _ _) => return a
  | some (.folder _ _) => throw .isAFolder
  | _ => throw .missing

/-- The text of the file that a path leads to. -/
def read (tree : FileTree) (path : Text) : Except PathFault Text := do
  let a ← tree.resolve path
  match tree.node? a with
  | some (.file true _ (.text t)) => return t
  | some (.file true _ (.binary _)) => throw .notText
  | some (.folder true _) => throw .isAFolder
  | some (.link _) | none => throw .missing
  | some _ => throw .denied

/-- The tree with a new text in the file that a path leads to. -/
def write (tree : FileTree) (path text : Text) : Except PathFault FileTree := do
  let a ← tree.fileAt path
  match tree.node? a with
  | some (.file readable true _) => return tree.set a (.file readable true (.text text))
  | _ => throw .denied

end FileTree

/-- The path of a file under a root. A file that starts at the root of all paths
    stays where it is. -/
def joinPath (root file : Text) : Text :=
  if file.head? = some '/' then file
  else if root = [] ∨ root.getLast? = some '/' then root ++ file
  else root ++ '/' :: file

end HelpWiring
