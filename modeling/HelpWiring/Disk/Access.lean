import HelpWiring.Disk.Tree

/-!
# Disks

All that a run does with files is to ask whether a path leads anywhere, to read
a text, and to write one. `Disk` names these three, for any kind of action, so
that a run is written once: on the disk of the machine it works, and on a file
tree it can be reasoned about.

A refused action gives its reason in the words of the operating system.

## Main definitions

* `Disk`: The three actions.
* `FileTree.disk`: The three actions on a file tree.
-/

namespace HelpWiring

/-- What a run does with files. -/
structure Disk (m : Type → Type) where
  /-- Whether a path leads anywhere. -/
  holds : Text → m Bool
  /-- The text of a file, or why there is none. -/
  read : Text → m (Except Text Text)
  /-- Puts a new text into a file, or says why not. -/
  write : Text → Text → m (Except Text Unit)

namespace FileTree

/-- The disk that a file tree is. -/
def disk : Disk (StateM FileTree) where
  holds path := fun tree => (tree.holds path, tree)
  read path := fun tree => ((tree.read path).mapError PathFault.message, tree)
  write path text := fun tree =>
    match tree.write path text with
    | .ok tree => (.ok (), tree)
    | .error fault => (.error fault.message, tree)

end FileTree

end HelpWiring
