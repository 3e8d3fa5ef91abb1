import HelpWiring.Disk.Tree

/-!
# Paths and the Outline of a Tree

Where a path leads depends on which folders, files and links there are, on what
may be done with them, and on what the links say, but not on what the files
hold. So a new text in a file moves no path, and reading another file gives what
it gave before. Two new texts in two files can be put there in either order.

A write is a `set` at the address of a file, and a run is a row of writes. The
lemmas here are the frame of such a row: what the next page finds is what it
would have found before the others were visited.

A file is changed only where its text can be read and a new one can be written.
`Editable` says so of a path, once for all the lemmas on runs.

## Main definitions

* `Node.outline`: A node without what a file holds.
* `SameOutline`: Trees that differ only in what files hold.
* `Editable`: A path that leads to a text, which may be replaced.

## Theorems

* `walk_of_sameOutline`, `fileAt_of_sameOutline`: Paths lead to the same places.
* `read_eq_ok_iff`: When a text is read.
* `read_of_sameOutline`: What is read depends on the outline and one file.
* `sameOutline_set`: A new text in a file keeps the outline.
* `set_comm`: Two files can be written in either order.
* `write_of_editable`, `write_of_locked`: When a text is written.
-/

namespace HelpWiring

/-- The node without what a file holds. -/
def Node.outline : Node → Node
  | .file readable writable _ => .file readable writable (.text [])
  | n => n

/-- A node in place of itself. -/
theorem setNode_of_findNode {a : Address} {n : Node} {nodes : List (Address × Node)}
    (h : findNode a nodes = some n) : setNode a n nodes = nodes := by
  induction nodes with
  | nil => exact absurd h (by simp only [findNode, reduceCtorEq, not_false_eq_true])
  | cons p rest ih =>
      rcases p with ⟨b, old⟩
      by_cases hb : b = a
      · rw [findNode, if_pos hb, Option.some.injEq] at h
        rw [setNode, if_pos hb, hb, h]
      · rw [findNode, if_neg hb] at h
        rw [setNode, if_neg hb, ih h]

/-- Nodes at two addresses can be replaced in either order. A new address would go
    to the end, so there the order would show. -/
theorem setNode_comm {a b : Address} (hne : a ≠ b) (m n : Node) {nodes : List (Address × Node)}
    (ha : (findNode a nodes).isSome = true) (hb : (findNode b nodes).isSome = true) :
    setNode a m (setNode b n nodes) = setNode b n (setNode a m nodes) := by
  induction nodes with
  | nil => exact absurd ha Bool.false_ne_true
  | cons p rest ih =>
      rcases p with ⟨c, old⟩
      by_cases hca : c = a
      · subst hca
        simp only [setNode, if_neg hne, if_true]
      · by_cases hcb : c = b
        · subst hcb
          simp only [setNode, if_neg hca, if_true]
        · rw [findNode, if_neg hca] at ha
          rw [findNode, if_neg hcb] at hb
          simp only [setNode, if_neg hca, if_neg hcb, ih ha hb]

namespace FileTree

/-- Trees that differ only in what files hold. -/
structure SameOutline (s t : FileTree) : Prop where
  home : s.home = t.home
  node : ∀ a, (s.node? a).map Node.outline = (t.node? a).map Node.outline

variable {s t : FileTree}

theorem SameOutline.refl (s : FileTree) : SameOutline s s := ⟨rfl, fun _ => rfl⟩

theorem SameOutline.symm (h : SameOutline s t) : SameOutline t s :=
  ⟨h.home.symm, fun a => (h.node a).symm⟩

theorem SameOutline.trans {u : FileTree} (h : SameOutline s t) (h' : SameOutline t u) :
    SameOutline s u :=
  ⟨h.home.trans h'.home, fun a => (h.node a).trans (h'.node a)⟩

/-- The node at an address in both trees: a file in either, with the same rights, or the
    same node. -/
theorem SameOutline.cases (h : SameOutline s t) (a : Address) :
    (∃ readable writable c d, s.node? a = some (.file readable writable c)
      ∧ t.node? a = some (.file readable writable d))
    ∨ ((∀ readable writable c, s.node? a ≠ some (.file readable writable c))
      ∧ t.node? a = s.node? a) := by
  have ha := h.node a
  rcases hs : s.node? a with _ | m
  · rw [hs, Option.map_none, eq_comm, Option.map_eq_none_iff] at ha
    exact Or.inr ⟨fun _ _ _ heq => (nomatch heq), ha⟩
  · rw [hs, Option.map_some, eq_comm, Option.map_eq_some_iff] at ha
    rcases ha with ⟨n, ht, hmn⟩
    cases m <;> cases n <;>
      simp only [Node.outline, reduceCtorEq, Node.folder.injEq, Node.file.injEq, Node.link.injEq,
        and_true] at hmn
    · rcases hmn with ⟨rfl, rfl⟩
      exact Or.inr ⟨fun _ _ _ heq => (nomatch heq), ht⟩
    · rcases hmn with ⟨rfl, rfl⟩
      exact Or.inl ⟨_, _, _, _, rfl, ht⟩
    · subst hmn
      exact Or.inr ⟨fun _ _ _ heq => (nomatch heq), ht⟩

theorem closed?_of_sameOutline (h : SameOutline s t) (here : Address) :
    s.closed? here = t.closed? here := by
  rcases h.cases here with ⟨_, _, c, d, hs, ht⟩ | ⟨-, heq⟩
  · rw [closed?, closed?, hs, ht]
  · rw [closed?, closed?, heq]

/-- A walk asks of a file only whether it is there. -/
theorem walkWith_of_sameOutline (h : SameOutline s t)
    {f g : Address → Text → List Text → Except PathFault Address}
    (hfollow : ∀ here target rest, f here target rest = g here target rest) (here : Address)
    (names : List Text) : walkWith f s here names = walkWith g t here names := by
  induction names generalizing here with
  | nil => rfl
  | cons name rest ih =>
      simp only [walkWith, ih, closed?_of_sameOutline h]
      -- what is left to ask is the node at the name
      rcases h.cases (name :: here) with ⟨_, _, c, d, hs, ht⟩ | ⟨-, heq⟩
      · simp only [hs, ht]
      · simp only [heq, hfollow]

theorem walk_of_sameOutline (h : SameOutline s t) (links : Nat) (here : Address)
    (names : List Text) : s.walk links here names = t.walk links here names := by
  induction links generalizing here names with
  | zero => exact walkWith_of_sameOutline h (fun _ _ _ => rfl) here names
  | succ links ih =>
      exact walkWith_of_sameOutline h (fun _ _ _ => ih _ _) here names

theorem isSome_node?_of_sameOutline (h : SameOutline s t) (a : Address) :
    (s.node? a).isSome = (t.node? a).isSome := by
  have ha := congrArg Option.isSome (h.node a)
  rwa [Option.isSome_map, Option.isSome_map] at ha

theorem resolve_of_sameOutline (h : SameOutline s t) (path : Text) :
    s.resolve path = t.resolve path := by
  have hlocate : s.locate path = t.locate path := by
    simp only [locate, h.home, walk_of_sameOutline h]
  simp only [resolve, hlocate, isSome_node?_of_sameOutline h]

theorem holds_of_sameOutline (h : SameOutline s t) (path : Text) : s.holds path = t.holds path := by
  rw [holds, holds, resolve_of_sameOutline h]

theorem fileAt_of_resolve {tree : FileTree} {path : Text} {a : Address}
    (h : tree.resolve path = .ok a) :
    tree.fileAt path = match tree.node? a with
      | some (.file _ _ _) => .ok a
      | some (.folder _ _) => .error .isAFolder
      | _ => .error .missing := by
  rw [fileAt, h]
  rfl

theorem fileAt_of_sameOutline (h : SameOutline s t) (path : Text) :
    s.fileAt path = t.fileAt path := by
  have hresolve := resolve_of_sameOutline h path
  cases hr : s.resolve path with
  | error fault => rw [fileAt, fileAt, ← hresolve, hr]; rfl
  | ok a =>
      rw [fileAt_of_resolve hr, fileAt_of_resolve (hresolve.symm.trans hr)]
      rcases h.cases a with ⟨_, _, c, d, hs, ht⟩ | ⟨-, heq⟩
      · rw [hs, ht]
      · rw [heq]

/-- The address of a file is that of a node that is a file. -/
theorem fileAt_eq_ok_iff {tree : FileTree} {path : Text} {a : Address} :
    tree.fileAt path = .ok a ↔ tree.resolve path = .ok a
      ∧ ∃ readable writable c, tree.node? a = some (.file readable writable c) := by
  constructor
  · intro h
    cases hr : tree.resolve path with
    | error fault =>
        rw [fileAt, hr] at h
        cases h
    | ok b =>
        rw [fileAt_of_resolve hr] at h
        rcases hb : tree.node? b with _ | ⟨_, _⟩ | ⟨readable, writable, c⟩ | target <;>
          simp only [hb, reduceCtorEq, Except.ok.injEq] at h
        subst h
        exact ⟨rfl, readable, writable, c, hb⟩
  · rintro ⟨hr, _, _, _, hnode⟩
    rw [fileAt_of_resolve hr, hnode]

theorem read_of_resolve {tree : FileTree} {path : Text} {a : Address}
    (h : tree.resolve path = .ok a) :
    tree.read path = match tree.node? a with
      | some (.file true _ (.text t)) => .ok t
      | some (.file true _ (.binary _)) => .error .notText
      | some (.folder true _) => .error .isAFolder
      | some (.link _) | none => .error .missing
      | some _ => .error .denied := by
  rw [read, h]
  rfl

/-- A text is read from the file that the path leads to. -/
theorem read_eq_ok_iff {tree : FileTree} {path text : Text} :
    tree.read path = .ok text ↔ ∃ a writable, tree.fileAt path = .ok a
      ∧ tree.node? a = some (.file true writable (.text text)) := by
  constructor
  · intro h
    cases hr : tree.resolve path with
    | error fault =>
        rw [read, hr] at h
        cases h
    | ok a =>
        rw [read_of_resolve hr] at h
        split at h <;> try cases h
        rename_i writable hnode
        exact ⟨a, writable, fileAt_eq_ok_iff.2 ⟨hr, _, _, _, hnode⟩, hnode⟩
  · rintro ⟨a, writable, ha, hnode⟩
    rw [read_of_resolve (fileAt_eq_ok_iff.1 ha).1, hnode]

theorem holds_of_fileAt {tree : FileTree} {path : Text} {a : Address}
    (h : tree.fileAt path = .ok a) : tree.holds path = true := by
  rw [holds, (fileAt_eq_ok_iff.1 h).1]
  rfl

/-- What is read at a path depends on the outline and on the one file. -/
theorem read_of_sameOutline (h : SameOutline s t) {path : Text}
    (hnode : ∀ a, s.fileAt path = .ok a → t.node? a = s.node? a) : t.read path = s.read path := by
  have hresolve := resolve_of_sameOutline h path
  cases hr : s.resolve path with
  | error fault => rw [read, read, ← hresolve, hr]; rfl
  | ok a =>
      rw [read_of_resolve hr, read_of_resolve (hresolve.symm.trans hr)]
      rcases h.cases a with ⟨_, _, c, d, hs, -⟩ | ⟨-, heq⟩
      · rw [hnode a (fileAt_eq_ok_iff.2 ⟨hr, _, _, _, hs⟩)]
      · rw [heq]

/-- New contents of a file keep the outline. -/
theorem sameOutline_set {tree : FileTree} {a : Address} {readable writable : Bool} {c : Contents}
    (h : tree.node? a = some (.file readable writable c)) (d : Contents) :
    SameOutline tree (tree.set a (.file readable writable d)) := by
  refine ⟨rfl, fun b => ?_⟩
  by_cases hb : b = a
  · subst hb
    rw [node_set_self, h]
    rfl
  · rw [node_set_other hb]

theorem findNode_of_file {tree : FileTree} {a : Address} {readable writable : Bool} {c : Contents}
    (h : tree.node? a = some (.file readable writable c)) :
    findNode a tree.nodes = some (.file readable writable c) := by
  rw [node?] at h
  split at h
  · rename_i n hn
    rw [hn, h]
  · -- without an entry there is only the root folder
    split at h <;> cases h

/-- A file with the contents it has. -/
theorem set_self {tree : FileTree} {a : Address} {readable writable : Bool} {c : Contents}
    (h : tree.node? a = some (.file readable writable c)) :
    tree.set a (.file readable writable c) = tree := by
  rw [set, setNode_of_findNode (findNode_of_file h)]

/-- New contents of two files can be put there in either order. -/
theorem set_comm {tree : FileTree} {a b : Address} (hne : a ≠ b) {r w r' w' : Bool}
    {c d : Contents} (ha : tree.node? a = some (.file r w c))
    (hb : tree.node? b = some (.file r' w' d)) (m n : Node) :
    (tree.set b n).set a m = (tree.set a m).set b n := by
  simp only [set]
  rw [setNode_comm hne m n (Option.isSome_of_eq_some (findNode_of_file ha))
    (Option.isSome_of_eq_some (findNode_of_file hb))]

/-- A path that leads to a text, which may be read and may be replaced. -/
structure Editable (tree : FileTree) (path : Text) (a : Address) (text : Text) : Prop where
  leads : tree.fileAt path = .ok a
  node : tree.node? a = some (.file true true (.text text))

namespace Editable

variable {tree : FileTree} {path : Text} {a : Address} {text : Text}

theorem read (h : Editable tree path a text) : tree.read path = .ok text :=
  read_eq_ok_iff.2 ⟨a, true, h.leads, h.node⟩

/-- A path leads to one place, and one text is there. -/
theorem unique (h : Editable tree path a text) {b : Address} {other : Text}
    (h' : Editable tree path b other) : b = a ∧ other = text := by
  obtain rfl : a = b := Except.ok.inj (h.leads.symm.trans h'.leads)
  have hnode := h.node.symm.trans h'.node
  simp only [Option.some.injEq, Node.file.injEq, Contents.text.injEq, true_and] at hnode
  exact ⟨rfl, hnode.symm⟩

/-- A new text in a file leaves it editable, and so does one in another file. -/
theorem of_sameOutline (h : Editable s path a text) (hst : SameOutline s t) {new : Text}
    (hread : t.read path = .ok new) : Editable t path a new := by
  have hleads : t.fileAt path = .ok a := fileAt_of_sameOutline hst path ▸ h.leads
  refine ⟨hleads, ?_⟩
  rcases read_eq_ok_iff.1 hread with ⟨b, writable, hb, hnode⟩
  obtain rfl : a = b := Except.ok.inj (hleads.symm.trans hb)
  have houtline := hst.node a
  rw [h.node, hnode, Option.map_some, Option.map_some, Option.some.injEq, Node.outline,
    Node.outline, Node.file.injEq] at houtline
  rw [hnode, ← houtline.2.1]

end Editable

theorem write_of_editable {tree : FileTree} {path text : Text} {a : Address}
    (h : Editable tree path a text) (new : Text) :
    tree.write path new = .ok (tree.set a (.file true true (.text new))) := by
  rw [write, h.leads]
  simp only [bind, Except.bind, h.node]
  rfl

/-- A text that can be read and not written. -/
theorem write_of_locked {tree : FileTree} {path text : Text} (hread : tree.read path = .ok text)
    (h : ∀ a, ¬ Editable tree path a text) (new : Text) :
    tree.write path new = .error .denied := by
  rcases read_eq_ok_iff.1 hread with ⟨a, writable, ha, hnode⟩
  cases writable with
  | true => exact absurd ⟨ha, hnode⟩ (h a)
  | false =>
      rw [write, ha]
      simp only [bind, Except.bind, hnode]
      rfl

end FileTree

end HelpWiring
