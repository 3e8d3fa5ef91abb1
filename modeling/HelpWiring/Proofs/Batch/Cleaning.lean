import HelpWiring.Proofs.Batch.Again
import HelpWiring.Proofs.Batch.Frame
import HelpWiring.Proofs.Page.Repeats

/-!
# Cleaning a Batch Again

Wiring looks at the tag of an entry, so a second entry for the same file finds
something to do where the first one is done. Cleaning does not look at the entry
at all. What it leaves is clean for every entry, and so a second run has nothing
to do even where entries share a file, which `Batch.wire_again` has to rule out.

A text that is found after a run was there before, or it is what the work made of
some text. At the path of a page that was visited it is the latter, unless the
file cannot be changed, and it stays that way while the other pages are visited.

## Main definitions

* `Work.Finishes`: Work that leaves what it made, whichever entry asks for it.

## Theorems

* `editable_visit`: What can be edited after a visit.
* `finished_of_visitAll`: What can be edited at the pages of a run.
* `not_updated_of_fixed`: A run over pages that the work leaves alone.
* `clean_again`: A batch cleaned twice.
-/

namespace HelpWiring

/-- All that the work makes satisfies `P`, and it leaves alone what does. -/
structure Work.Finishes (work : Work) (P : Text → Prop) : Prop where
  made : ∀ e page, P (work e page).1
  left : ∀ e page, P page → (work e page).1 = page

/-- Cleaning is done with a page that it has cleaned. -/
theorem finishes_cleaning : Work.Finishes cleaning fun page => Page.clean page = page where
  made _ page := Page.clean_clean page
  left _ _ h := h

namespace FileTree

variable {work : Work} {P : Text → Prop} {root : Text} {es : List Entry} {tree : FileTree}

/-- A text that is found after a visit was there before, or was made by the work. -/
theorem editable_visit {e : Entry} {path page : Text} {a : Address}
    (h : Editable (visit work root e tree).2 path a page) :
    Editable tree path a page ∨ ∃ old, page = (work e old).1 := by
  rcases visit_cases work root e tree with ⟨b, old, -, htree⟩ | ⟨-, htree⟩
  · have hleads : tree.fileAt path = .ok a := by
      rw [fileAt_of_sameOutline (sameOutline_visit work root e tree)]
      exact h.leads
    have hnode := h.node
    rw [htree] at hnode
    by_cases hab : a = b
    · rw [hab, node_set_self] at hnode
      simp only [Option.some.injEq, Node.file.injEq, Contents.text.injEq, true_and] at hnode
      exact Or.inr ⟨old, hnode.symm⟩
    · rw [node_set_other hab] at hnode
      exact Or.inl ⟨hleads, hnode⟩
  · rw [htree] at h
    exact Or.inl h

/-- What is finished at a path stays so in a run. -/
theorem finished_visitAll (hwork : work.Finishes P) {path : Text}
    (h : ∀ a page, Editable tree path a page → P page) :
    ∀ a page, Editable (visitAll work root es tree).2 path a page → P page := by
  induction es generalizing tree with
  | nil => exact h
  | cons e es ih =>
      rw [visitAll_cons]
      refine ih fun a page hpage => ?_
      rcases editable_visit hpage with hbefore | ⟨old, rfl⟩
      · exact h a page hbefore
      · exact hwork.made e old

/-- The pages of a run are finished when it ends, as far as they can be. -/
theorem finished_of_visitAll (hwork : work.Finishes P) {e : Entry} (he : e ∈ es) :
    ∀ a page, Editable (visitAll work root es tree).2 (joinPath root e.file) a page →
      P page := by
  induction es generalizing tree with
  | nil => exact absurd he List.not_mem_nil
  | cons f es ih =>
      rw [visitAll_cons]
      rcases List.mem_cons.1 he with rfl | he
      · -- its own visit finishes it, and the others keep it so
        refine finished_visitAll hwork fun a page hpage => ?_
        rcases editable_visit_self.1 hpage with ⟨old, -, rfl⟩
        exact hwork.made e old
      · exact ih he

/-- A run over pages that the work leaves alone reports none of them as updated. -/
theorem not_updated_of_fixed
    (h : ∀ e ∈ es, ∀ a page, Editable tree (joinPath root e.file) a page →
      (work e page).1 = page) :
    ∀ r ∈ (visitAll work root es tree).1, r.outcome ≠ .updated := by
  induction es generalizing tree with
  | nil => exact fun r hr => absurd hr List.not_mem_nil
  | cons e es ih =>
      rw [List.forall_mem_cons] at h
      rw [visitAll_cons, List.forall_mem_cons, tree_visit_of_fixed h.1]
      refine ⟨fun hupdated => ?_, ih h.2⟩
      rcases visit_of_updated hupdated with ⟨a, page, ha, hnode, hnew, -⟩
      exact hnew (h.1 a page ⟨target?_eq_some_iff.1 ha, hnode⟩)

end FileTree

/-- A page that is cleaned again stays as it is. A batch that is cleaned again changes no
    file and reports no page as updated, also where entries share a file. -/
theorem Batch.clean_again (b : Batch) (tree : FileTree) :
    (∀ page, Page.clean (Page.clean page) = Page.clean page)
    ∧ let first : Report × FileTree := Batch.clean FileTree.disk b tree
      let second : Report × FileTree := Batch.clean FileTree.disk b first.2
      second.2 = first.2 ∧ ∀ r ∈ second.1.files, r.outcome ≠ .updated := by
  have hfixed : ∀ e ∈ b.catalog.entries, ∀ a page,
      (FileTree.visitAll cleaning b.root b.catalog.entries tree).2.Editable
        (joinPath b.root e.file) a page → (cleaning e page).1 = page :=
    fun e he a page hpage => FileTree.finished_of_visitAll finishes_cleaning he a page hpage
  exact ⟨Page.clean_clean, FileTree.visitAll_of_fixed hfixed,
    FileTree.not_updated_of_fixed hfixed⟩

end HelpWiring
