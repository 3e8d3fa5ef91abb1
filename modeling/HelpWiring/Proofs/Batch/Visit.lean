import HelpWiring.Batch
import HelpWiring.Proofs.Disk.Outline

/-!
# Visits

What a visit of one page does to a file tree, said once. It reports by what it
sees at the path of the page: whether something is there, which text is read,
and whether a new one may be written. It changes one node at most, that of the
file the path leads to, and this node keeps being a file with the same rights.

## Main definitions

* `FileTree.target?`: The file of a page.
* `Node.worked`: A file after the work on its text.

## Theorems

* `visit_of_missing`, `visit_of_unreadable`, `visit_of_locked`,
  `visit_of_editable`: The four cases of a visit.
* `report_visit_congr`: The report depends on what is seen at the path.
* `node_visit_self`, `node_visit_other`: The frame of a visit.
* `sameOutline_visit`: A visit moves no path.
-/

namespace HelpWiring

/-- A node after some work on its text, if it holds one that can be read and replaced. -/
def Node.worked (work : Work) (e : Entry) : Node → Node
  | .file true true (.text page) => .file true true (.text (work e page).1)
  | n => n

namespace FileTree

/-- The file of a page, if its path leads to one. -/
def target? (tree : FileTree) (root : Text) (e : Entry) : Option Address :=
  (tree.fileAt (joinPath root e.file)).toOption

theorem target?_eq_some_iff {tree : FileTree} {root : Text} {e : Entry} {a : Address} :
    tree.target? root e = some a ↔ tree.fileAt (joinPath root e.file) = .ok a := by
  rw [target?]
  cases tree.fileAt (joinPath root e.file) with
  | error fault => exact iff_of_false (fun h => nomatch h) fun h => nomatch h
  | ok b => rw [Except.toOption, Option.some.injEq, Except.ok.injEq]

theorem target?_of_sameOutline {s t : FileTree} (h : SameOutline s t) (root : Text) (e : Entry) :
    s.target? root e = t.target? root e := by
  rw [target?, target?, fileAt_of_sameOutline h]

/-- The visit of a page, with the actions on the disk carried out. -/
theorem visitPage_disk (work : Work) (root : Text) (e : Entry) (tree : FileTree) :
    visitPage disk work root e tree =
      if tree.holds (joinPath root e.file) then
        match tree.read (joinPath root e.file) with
        | .error fault =>
            (.error (PageFault.unreadable (joinPath root e.file) fault.message).toFault, tree)
        | .ok page =>
            if (work e page).1 = page then (.ok ⟨e.file, e.tag, (work e page).2, .upToDate⟩, tree)
            else match tree.write (joinPath root e.file) (work e page).1 with
              | .error fault =>
                  (.error (PageFault.unwritable (joinPath root e.file) fault.message).toFault, tree)
              | .ok written => (.ok ⟨e.file, e.tag, (work e page).2, .updated⟩, written)
      else (.ok (bareReport e .notFound), tree) := by
  simp only [visitPage, disk, bind, StateT.bind]
  by_cases hholds : tree.holds (joinPath root e.file) = true
  · rw [if_pos hholds, if_pos hholds]
    simp only [bind, StateT.bind]
    cases tree.read (joinPath root e.file) with
    | error fault => rfl
    | ok page =>
        have hok : (Except.ok page : Except PathFault Text).mapError PathFault.message = .ok page :=
          rfl
        simp only [hok]
        by_cases hnew : (work e page).1 = page
        · rw [if_pos hnew, if_pos hnew]
          rfl
        · rw [if_neg hnew, if_neg hnew]
          simp only [bind, StateT.bind]
          cases tree.write (joinPath root e.file) (work e page).1 <;> rfl
  · rw [if_neg hholds, if_neg hholds]
    rfl

section

variable {work : Work} {root : Text} {e : Entry} {tree : FileTree}

theorem visit_of_missing (h : tree.holds (joinPath root e.file) = false) :
    visit work root e tree = (bareReport e .notFound, tree) := by
  rw [visit, visitPage_disk, if_neg (by rw [h]; decide)]
  rfl

theorem visit_of_unreadable {fault : PathFault} (hholds : tree.holds (joinPath root e.file) = true)
    (hread : tree.read (joinPath root e.file) = .error fault) :
    visit work root e tree
      = (bareReport e (.failed (PageFault.unreadable (joinPath root e.file)
          fault.message).toFault.message), tree) := by
  rw [visit, visitPage_disk, if_pos hholds, hread]
  rfl

/-- A text that can be replaced is worked on. It makes no difference to the tree whether a
    text that stays the same is written or not. -/
theorem visit_of_editable {a : Address} {page : Text}
    (h : Editable tree (joinPath root e.file) a page) :
    visit work root e tree
      = (⟨e.file, e.tag, (work e page).2, if (work e page).1 = page then .upToDate else .updated⟩,
        tree.set a (.file true true (.text (work e page).1))) := by
  rw [visit, visitPage_disk, if_pos (holds_of_fileAt h.leads), h.read]
  by_cases hnew : (work e page).1 = page
  · -- nothing is written, and the file holds the text already
    simp only [hnew, if_true, set_self h.node]
    rfl
  · simp only [hnew, if_false, write_of_editable h]
    rfl

/-- A text that can only be read is worked on, but what comes of it is lost. -/
theorem visit_of_locked {page : Text} (hread : tree.read (joinPath root e.file) = .ok page)
    (h : ∀ a, ¬ Editable tree (joinPath root e.file) a page) :
    visit work root e tree
      = (if (work e page).1 = page then ⟨e.file, e.tag, (work e page).2, .upToDate⟩
        else bareReport e (.failed (PageFault.unwritable (joinPath root e.file)
          PathFault.denied.message).toFault.message), tree) := by
  rcases read_eq_ok_iff.1 hread with ⟨a, writable, ha, -⟩
  rw [visit, visitPage_disk, if_pos (holds_of_fileAt ha), hread]
  by_cases hnew : (work e page).1 = page
  · simp only [hnew, if_true]
    rfl
  · simp only [hnew, if_false, write_of_locked hread h]
    rfl

/-- The cases of a visit: it works on a text that it can replace, or it leaves the tree. -/
theorem visit_cases (work : Work) (root : Text) (e : Entry) (tree : FileTree) :
    (∃ a page, Editable tree (joinPath root e.file) a page
      ∧ (visit work root e tree).2 = tree.set a (.file true true (.text (work e page).1)))
    ∨ ((∀ a page, ¬ Editable tree (joinPath root e.file) a page)
      ∧ (visit work root e tree).2 = tree) := by
  by_cases heditable : ∃ a page, Editable tree (joinPath root e.file) a page
  · rcases heditable with ⟨a, page, h⟩
    exact Or.inl ⟨a, page, h, congrArg Prod.snd (visit_of_editable h)⟩
  · simp only [not_exists] at heditable
    refine Or.inr ⟨heditable, ?_⟩
    cases hread : tree.read (joinPath root e.file) with
    | ok page => rw [visit_of_locked hread fun a => heditable a page]
    | error fault =>
        cases hholds : tree.holds (joinPath root e.file) with
        | true => rw [visit_of_unreadable hholds hread]
        | false => rw [visit_of_missing hholds]

/-- A page whose text cannot be read and replaced changes nothing. -/
theorem tree_visit_of_not_editable (h : ∀ a page, ¬ Editable tree (joinPath root e.file) a page) :
    (visit work root e tree).2 = tree := by
  rcases visit_cases work root e tree with ⟨a, page, heditable, -⟩ | ⟨-, htree⟩
  · exact absurd heditable (h a page)
  · exact htree

/-- A visit reports by what it sees at the path of its page. -/
theorem report_visit_congr {s t : FileTree} (h : SameOutline s t)
    (hread : t.read (joinPath root e.file) = s.read (joinPath root e.file)) :
    (visit work root e t).1 = (visit work root e s).1 := by
  have hholds := holds_of_sameOutline h (joinPath root e.file)
  cases hs : s.holds (joinPath root e.file) with
  | false => rw [visit_of_missing hs, visit_of_missing (hholds.symm.trans hs)]
  | true =>
      cases hp : s.read (joinPath root e.file) with
      | error fault =>
          rw [visit_of_unreadable hs hp,
            visit_of_unreadable (hholds.symm.trans hs) (hread.trans hp)]
      | ok page =>
          by_cases heditable : ∃ a, Editable s (joinPath root e.file) a page
          · rcases heditable with ⟨a, ha⟩
            rw [visit_of_editable ha, visit_of_editable (ha.of_sameOutline h (hread.trans hp))]
          · simp only [not_exists] at heditable
            rw [visit_of_locked hp heditable, visit_of_locked (hread.trans hp) fun a ha =>
              heditable a (ha.of_sameOutline h.symm hp)]

theorem sameOutline_visit (work : Work) (root : Text) (e : Entry) (tree : FileTree) :
    SameOutline tree (visit work root e tree).2 := by
  rcases visit_cases work root e tree with ⟨a, page, h, htree⟩ | ⟨-, htree⟩
  · rw [htree]
    exact sameOutline_set h.node _
  · rw [htree]
    exact SameOutline.refl tree

/-- A visit leaves every node but that of its own file. -/
theorem node_visit_other {a : Address} (h : tree.target? root e ≠ some a) :
    (visit work root e tree).2.node? a = tree.node? a := by
  rcases visit_cases work root e tree with ⟨b, page, hb, htree⟩ | ⟨-, htree⟩
  · rw [htree]
    refine node_set_other ?_ _
    rintro rfl
    exact h (target?_eq_some_iff.2 hb.leads)
  · rw [htree]

/-- What a visit leaves in its own file. -/
theorem node_visit_self {a : Address} (h : tree.target? root e = some a) :
    (visit work root e tree).2.node? a = (tree.node? a).map (Node.worked work e) := by
  have ha := target?_eq_some_iff.1 h
  rcases visit_cases work root e tree with ⟨b, page, hb, htree⟩ | ⟨hnone, htree⟩
  · obtain rfl : b = a := Except.ok.inj (hb.leads.symm.trans ha)
    rw [htree, node_set_self, hb.node]
    rfl
  · rw [htree]
    rcases (fileAt_eq_ok_iff.1 ha).2 with ⟨readable, writable, c, hc⟩
    rw [hc, Option.map_some, Option.some.injEq]
    -- only a text that can be read and replaced would be worked on
    cases readable <;> cases writable <;> cases c <;> first
      | rfl
      | exact absurd ⟨ha, hc⟩ (hnone a _)

/-- What a visit makes of the text at the path of its page. -/
theorem editable_visit_self {a : Address} {new : Text} :
    Editable (visit work root e tree).2 (joinPath root e.file) a new
      ↔ ∃ page, Editable tree (joinPath root e.file) a page ∧ new = (work e page).1 := by
  have hsame := fileAt_of_sameOutline (sameOutline_visit work root e tree) (joinPath root e.file)
  rcases visit_cases work root e tree with ⟨b, page, hb, htree⟩ | ⟨hnone, htree⟩
  · have hafter : Editable (visit work root e tree).2 (joinPath root e.file) b (work e page).1 :=
      ⟨hsame ▸ hb.leads, by rw [htree, node_set_self]⟩
    constructor
    · intro h
      rcases hafter.unique h with ⟨rfl, rfl⟩
      exact ⟨page, hb, rfl⟩
    · rintro ⟨old, hold, rfl⟩
      rcases hb.unique hold with ⟨rfl, rfl⟩
      exact hafter
  · rw [htree]
    exact iff_of_false (hnone a new) fun ⟨page, h, _⟩ => hnone a page h

/-- A page whose text the work leaves alone changes nothing. -/
theorem tree_visit_of_fixed
    (h : ∀ a page, Editable tree (joinPath root e.file) a page → (work e page).1 = page) :
    (visit work root e tree).2 = tree := by
  rcases visit_cases work root e tree with ⟨a, page, ha, htree⟩ | ⟨-, htree⟩
  · rw [htree, h a page ha]
    exact set_self ha.node
  · exact htree

end

end FileTree

end HelpWiring
