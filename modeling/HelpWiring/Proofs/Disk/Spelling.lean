import HelpWiring.Proofs.Disk.Outline
import HelpWiring.Proofs.Text.Seam

/-!
# Spellings of a Path

A path can be spelt in many ways. Slashes can be doubled and dots can stand
between them, and it is the same path: what counts are the names that are left.
A dot in front is the one that counts, since a path that starts with it says
where it starts.

Files are named under a root, and `parts_joinPath` says that the names of the
root come first then, and those of the file follow. So under one root the names
of the files decide which paths are the same.

That paths differ does not mean that files do. A name can go up and come down
again, and a path can start at the root folder or at the working folder. Without
links nothing else is to be worked out: a walk ends where its names say, or it
fails. So `Address.ofPath` reads the place of a file off its path and the working
folder. `below?` works out names that never go up out of a root, and
`ofPath_joinPath` says where they lead under it.

## Main definitions

* `IsRelative`: A path that does not start at the root of all paths.
* `namesOf`: The names in a path that count.
* `PathParts`, `partsOf`: What tells paths apart.
* `below?`: Where a file is below its root.
* `Address.next`: The place that a name leads to.
* `Address.ofPath`: The place that the names of a path lead to.
* `FileTree.Linkless`: A tree without links.

## Theorems

* `parts_joinPath`: The parts of a file under a root.
* `parts_joinPath_eq_iff`: Which files are the same path under a root.
* `below?_eq_of_names`: The same names are below a root at the same place.
* `walkWith_eq_foldl`: Where a walk without links ends.
* `ofPath_of_fileAt`: The file at a path is where its names lead.
* `ofPath_joinPath`: Where the names of a file under a root lead.
-/

namespace HelpWiring

/-- A path that does not start at the root of all paths. -/
def IsRelative (path : Text) : Prop := path.head? ≠ some '/'

instance (path : Text) : Decidable (IsRelative path) :=
  inferInstanceAs (Decidable (path.head? ≠ some '/'))

/-- Some names without the empty ones and the dots. -/
def realNames (names : List Text) : List Text := names.filter fun name => !staysHere name

/-- The names in a path that count. -/
def namesOf (path : Text) : List Text := realNames (path.cut '/')

/-- What tells paths apart. -/
structure PathParts where
  /-- It starts at the root of all paths. -/
  fromRoot : Bool
  /-- It starts with a dot. -/
  fromDot : Bool
  names : List Text
  deriving DecidableEq

/-- The parts of a path. -/
def partsOf (path : Text) : PathParts where
  fromRoot := path.head? == some '/'
  fromDot := (path.cut '/').head? == some ['.']
  names := namesOf path

theorem cut_slash (above below : Text) :
    (above ++ '/' :: below).cut '/' = above.cut '/' ++ below.cut '/' := by
  rcases Text.exists_cut_concat '/' above with ⟨front, last, habove⟩
  rw [Text.cut_append habove (Text.cut_cons_self '/' below), List.append_nil, habove,
    List.append_assoc, List.singleton_append]

/-- The names of a file under a root come after names that depend on the root alone. -/
theorem exists_cut_joinPath (root : Text) : ∃ above, (above = [] ↔ root = [])
    ∧ ∀ file, IsRelative file → (joinPath root file).cut '/' = above ++ file.cut '/' := by
  by_cases hempty : root = []
  · refine ⟨[], iff_of_true rfl hempty, fun file hfile => ?_⟩
    rw [joinPath, if_neg hfile, if_pos (Or.inl hempty), hempty]
    rfl
  · by_cases hslash : root.getLast? = some '/'
    · -- the slash at the end of the root is the one in front of the file
      rcases List.getLast?_eq_some_iff.1 hslash with ⟨front, hroot⟩
      refine ⟨Text.cut '/' front, iff_of_false (Text.cut_ne_nil '/' front) hempty,
        fun file hfile => ?_⟩
      rw [joinPath, if_neg hfile, if_pos (Or.inr hslash), hroot, List.append_assoc,
        List.singleton_append, cut_slash]
    · refine ⟨root.cut '/', iff_of_false (Text.cut_ne_nil '/' root) hempty,
        fun file hfile => ?_⟩
      rw [joinPath, if_neg hfile, if_neg fun h => h.elim hempty hslash, cut_slash]

theorem head?_joinPath {root file : Text} (h : IsRelative file) :
    (joinPath root file).head? = some '/' ↔ root.head? = some '/' := by
  rw [joinPath, if_neg h]
  cases root with
  | nil => exact iff_of_false h (fun hroot => nomatch hroot)
  | cons c root => split <;> exact Iff.rfl

theorem realNames_append (xs ys : List Text) :
    realNames (xs ++ ys) = realNames xs ++ realNames ys :=
  List.filter_append xs ys

/-- The parts of a file under a root. Only under an empty root does it show whether the
    file starts with a dot. -/
theorem parts_joinPath (root : Text) : ∃ fromDot above, ∀ file, IsRelative file →
    partsOf (joinPath root file)
      = ⟨root.head? == some '/', if root = [] then (partsOf file).fromDot else fromDot,
        above ++ namesOf file⟩ := by
  rcases exists_cut_joinPath root with ⟨above, hnil, hcut⟩
  refine ⟨above.head? == some ['.'], realNames above, fun file hfile => ?_⟩
  have hroot : ((joinPath root file).head? == some '/') = (root.head? == some '/') := by
    rw [Bool.eq_iff_iff, beq_iff_eq, beq_iff_eq, head?_joinPath hfile]
  rw [partsOf, namesOf, hcut file hfile, realNames_append, hroot]
  by_cases hempty : root = []
  · rw [if_pos hempty, hnil.2 hempty]
    rfl
  · rw [if_neg hempty]
    cases above with
    | nil => exact absurd (hnil.1 rfl) hempty
    | cons name above => rfl

/-- Two files are the same path under a root if they have the same names. -/
theorem parts_joinPath_eq_iff {root file other : Text} (hfile : IsRelative file)
    (hother : IsRelative other) :
    partsOf (joinPath root file) = partsOf (joinPath root other)
      ↔ namesOf file = namesOf other
        ∧ (root = [] → (partsOf file).fromDot = (partsOf other).fromDot) := by
  rcases parts_joinPath root with ⟨fromDot, above, hparts⟩
  rw [hparts file hfile, hparts other hother, PathParts.mk.injEq, List.append_cancel_left_eq]
  by_cases hempty : root = []
  · simp only [hempty, if_true, true_and, true_implies, and_comm]
  · simp only [hempty, if_false, true_and, false_implies, and_true]

/-- Where some names lead below a folder, the innermost name first, from some names
    below it on. Names that go up out of the folder lead nowhere. -/
def follow? (below : List Text) : List Text → Option (List Text)
  | [] => some below
  | name :: names =>
    if staysHere name then follow? below names
    else if goesUp name then match below with
      | [] => none
      | _ :: up => follow? up names
    else follow? (name :: below) names

/-- Where a file is below its root. -/
def below? (file : Text) : Option (List Text) := follow? [] (file.cut '/')

theorem follow?_realNames (below names : List Text) :
    follow? below (realNames names) = follow? below names := by
  induction names generalizing below with
  | nil => rfl
  | cons name names ih =>
      rw [realNames, List.filter_cons]
      cases hstay : staysHere name with
      | true =>
          simp only [Bool.not_true, Bool.false_eq_true, if_false, follow?, hstay, if_true]
          exact ih below
      | false =>
          simp only [Bool.not_false, if_true, follow?, hstay, Bool.false_eq_true, if_false]
          split
          · cases below with
            | nil => rfl
            | cons inner up => exact ih up
          · exact ih (name :: below)

/-- Files with the same names are at the same place. -/
theorem below?_eq_of_names {file other : Text} (h : namesOf file = namesOf other) :
    below? file = below? other := by
  rw [below?, below?, ← follow?_realNames, ← follow?_realNames [] (other.cut '/')]
  exact congrArg (follow? []) h

namespace Address

/-- The place that a name leads to, as long as it is the name of a folder or the last
    one of a path. -/
def next (here : Address) (name : Text) : Address :=
  if staysHere name then here else if goesUp name then here.tail else name :: here

theorem next_of_stays {name : Text} (h : staysHere name = true) (here : Address) :
    next here name = here := if_pos h

theorem next_of_goesUp {name : Text} (hstay : ¬ staysHere name = true)
    (hup : goesUp name = true) (here : Address) : next here name = here.tail := by
  rw [next, if_neg hstay, if_pos hup]

theorem next_of_real {name : Text} (hstay : ¬ staysHere name = true)
    (hup : ¬ goesUp name = true) (here : Address) : next here name = name :: here := by
  rw [next, if_neg hstay, if_neg hup]

/-- The place that the names of a path lead to. -/
def ofPath (home : Address) (path : Text) : Address :=
  (path.cut '/').foldl next (start home path)

/-- Names that stay below a place lead to a place below it. -/
theorem foldl_next {below final names : List Text} (h : follow? below names = some final)
    (here : Address) : names.foldl next (below ++ here) = final ++ here := by
  induction names generalizing below with
  | nil => rw [← Option.some.inj h, List.foldl_nil]
  | cons name names ih =>
      simp only [follow?] at h
      rw [List.foldl_cons]
      by_cases hstay : staysHere name = true
      · rw [if_pos hstay] at h
        rw [next_of_stays hstay]
        exact ih h
      · rw [if_neg hstay] at h
        by_cases hup : goesUp name = true
        · rw [if_pos hup] at h
          rw [next_of_goesUp hstay hup]
          cases below with
          | nil => cases h
          | cons inner up => exact ih h
        · rw [if_neg hup] at h
          rw [next_of_real hstay hup]
          exact ih h

/-- A file under a root is below a place that depends on the root alone, and where it is
    there depends on its name alone. -/
theorem ofPath_joinPath (home : Address) (root : Text) : ∃ folder : Address, ∀ file,
    IsRelative file → ∀ below, below? file = some below →
      ofPath home (joinPath root file) = below ++ folder := by
  rcases exists_cut_joinPath root with ⟨above, -, hcut⟩
  -- the names of the root lead to the folder, and from there on it is those of the file
  refine ⟨above.foldl next (start home root), fun file hfile below hbelow => ?_⟩
  have hstart : start home (joinPath root file) = start home root := by
    simp only [start, head?_joinPath hfile]
  rw [ofPath, hcut file hfile, List.foldl_append, hstart]
  exact foldl_next hbelow _

end Address

namespace FileTree

/-- A tree without links. -/
def Linkless (tree : FileTree) : Prop := ∀ a target, tree.node? a ≠ some (.link target)

theorem mem_of_findNode {nodes : List (Address × Node)} {a : Address} {n : Node}
    (h : findNode a nodes = some n) : (a, n) ∈ nodes := by
  induction nodes with
  | nil => cases h
  | cons p nodes ih =>
      obtain ⟨b, m⟩ := p
      by_cases hb : b = a
      · rw [findNode, if_pos hb, Option.some.injEq] at h
        rw [hb, h]
        exact List.mem_cons_self
      · rw [findNode, if_neg hb] at h
        exact List.mem_cons_of_mem _ (ih h)

/-- A tree has no links if there are none among its nodes. -/
theorem linkless_of_nodes {tree : FileTree}
    (h : ∀ p ∈ tree.nodes, ∀ target, p.2 ≠ .link target) : tree.Linkless := by
  intro a target hlink
  rw [node?] at hlink
  split at hlink
  · rename_i n hn
    exact h _ (mem_of_findNode hn) target (Option.some.inj hlink)
  · -- without an entry there is only the root folder
    split at hlink <;> cases hlink

variable {tree : FileTree} {follow : Address → Text → List Text → Except PathFault Address}

/-- A step of a walk without links. It goes to the next place, and only the last step can
    find nothing there, or a file. -/
theorem walkWith_cons (hlinks : tree.Linkless) {here a : Address} {name : Text}
    {names : List Text} (h : walkWith follow tree here (name :: names) = .ok a) :
    (names = [] ∧ a = here.next name)
    ∨ walkWith follow tree (here.next name) names = .ok a := by
  simp only [walkWith] at h
  by_cases hslash : name = []
  · rw [if_pos hslash] at h
    rw [Address.next_of_stays (by rw [hslash]; rfl)]
    exact Or.inr h
  rw [if_neg hslash] at h
  cases hclosed : tree.closed? here with
  | some fault =>
      rw [hclosed] at h
      cases h
  | none =>
  simp only [hclosed] at h
  by_cases hstay : staysHere name = true
  · rw [if_pos hstay] at h
    rw [Address.next_of_stays hstay]
    exact Or.inr h
  rw [if_neg hstay] at h
  by_cases hup : goesUp name = true
  · rw [if_pos hup] at h
    rw [Address.next_of_goesUp hstay hup]
    exact Or.inr h
  rw [if_neg hup] at h
  rw [Address.next_of_real hstay hup]
  by_cases hlong : maxNameOctets < octets name
  · rw [if_pos hlong] at h
    cases h
  rw [if_neg hlong] at h
  have hlast : ∀ fault : PathFault, (if names = [] then Except.ok (name :: here)
      else .error fault) = .ok a → names = [] ∧ a = name :: here := by
    intro fault h
    by_cases hnil : names = []
    · rw [if_pos hnil] at h
      exact ⟨hnil, (Except.ok.inj h).symm⟩
    · rw [if_neg hnil] at h
      cases h
  rcases hnode : tree.node? (name :: here) with _ | _ | _ | target <;> simp only [hnode] at h
  · exact Or.inl (hlast _ h)
  · exact Or.inr h
  · exact Or.inl (hlast _ h)
  · exact absurd hnode (hlinks _ target)

/-- A walk without links ends where the names say, if it gets there. -/
theorem walkWith_eq_foldl (hlinks : tree.Linkless) {here a : Address} {names : List Text}
    (h : walkWith follow tree here names = .ok a) : a = names.foldl Address.next here := by
  induction names generalizing here with
  | nil => exact (Except.ok.inj h).symm
  | cons name names ih =>
      rw [List.foldl_cons]
      rcases walkWith_cons hlinks h with ⟨rfl, ha⟩ | hrest
      · exact ha
      · exact ih hrest

/-- The file at a path, if there are no links, is where the names of the path lead. -/
theorem ofPath_of_fileAt (hlinks : tree.Linkless) {path : Text} {a : Address}
    (h : tree.fileAt path = .ok a) : Address.ofPath tree.home path = a := by
  have hresolve := (fileAt_eq_ok_iff.1 h).1
  have hlocate : tree.locate path = .ok a := by
    rw [resolve] at hresolve
    cases hplace : tree.locate path with
    | error fault => rw [hplace] at hresolve; cases hresolve
    | ok b =>
        rw [hplace] at hresolve
        simp only [bind, Except.bind] at hresolve
        split at hresolve
        · exact hresolve
        · cases hresolve
  rw [locate] at hlocate
  cases hrefusal : refusal? path with
  | some fault => rw [hrefusal] at hlocate; cases hlocate
  | none =>
      rw [hrefusal] at hlocate
      exact (walkWith_eq_foldl hlinks hlocate).symm

end FileTree

end HelpWiring
