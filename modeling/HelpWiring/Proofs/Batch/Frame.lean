import HelpWiring.Proofs.Batch.Isolation

/-!
# What a Run Leaves Alone

A run writes a file only to change it. A visit that does not report its page as
updated leaves the whole tree as it finds it. One that does has found a text at
the path of the page, and has put the text that the work makes of it in its
place, which is another one. So a node is changed only if some page that leads
to it is reported as updated, and a change never makes a node, removes one, or
turns it into one of another kind.

Two pages may lead to one file here. The second visit then finds the text that
the first one wrote, so what is said of a visit is said of the tree right
before it, which is the tree after the pages in front of it.

## Main definitions

* `Framed`: A run and what it leaves alone.

## Theorems

* `tree_visit_of_not_updated`, `visit_of_updated`: The frame of a visit.
* `visitAll_append`, `visit_at`: A run, page by page.
* `node_visitAll_of_not_updated`: The frame of a run.
* `framed`: The same for both kinds of run.
-/

namespace HelpWiring

/-- What a run over a catalog leaves alone, and what it does otherwise. `run` is the run
    over any catalog from any tree, so the pages in front of a place make a run of their
    own, and `new` is what the work makes of the text of a page. -/
structure Framed (run : Catalog → FileTree → Report × FileTree) (root : Text)
    (new : Entry → Text → Text) (catalog : Catalog) (tree : FileTree) : Prop where
  /-- A run is the run over its first pages, and then that over the others on the tree
      that these leave. -/
  stages : ∀ i,
    (run catalog tree).1.files
        = (run ⟨catalog.entries.take i⟩ tree).1.files
          ++ (run ⟨catalog.entries.drop i⟩ (run ⟨catalog.entries.take i⟩ tree).2).1.files
      ∧ (run catalog tree).2
        = (run ⟨catalog.entries.drop i⟩ (run ⟨catalog.entries.take i⟩ tree).2).2
  /-- No node comes or goes, and none becomes one of another kind or with other rights. -/
  outline : FileTree.SameOutline tree (run catalog tree).2
  /-- Every node stays that is not the file of a page reported as updated. -/
  others : ∀ a, (∀ p ∈ catalog.entries.zip (run catalog tree).1.files, p.2.outcome = .updated →
      tree.target? root p.1 ≠ some a) → (run catalog tree).2.node? a = tree.node? a
  /-- Each page has its report. If that is not `updated`, its visit changes nothing. -/
  idle : ∀ i e, catalog.entries[i]? = some e → ∃ r, (run catalog tree).1.files[i]? = some r
    ∧ (r.outcome ≠ .updated →
      (run ⟨catalog.entries.take (i + 1)⟩ tree).2 = (run ⟨catalog.entries.take i⟩ tree).2)
  /-- If it is, the file of the page holds a text before the visit, and after it what the
      work makes of this text, which is another one. -/
  written : ∀ i e r, catalog.entries[i]? = some e → (run catalog tree).1.files[i]? = some r →
    r.outcome = .updated → ∃ a page, tree.target? root e = some a
      ∧ (run ⟨catalog.entries.take i⟩ tree).2.node? a = some (.openFile (.text page))
      ∧ new e page ≠ page
      ∧ (run ⟨catalog.entries.take (i + 1)⟩ tree).2.node? a
        = some (.openFile (.text (new e page)))

namespace FileTree

variable {work : Work} {root : Text} {tree : FileTree}

/-- What a visit reports as updated, it has changed. -/
theorem visit_of_updated {e : Entry} (h : (visit work root e tree).1.outcome = .updated) :
    ∃ a page, tree.target? root e = some a ∧ tree.node? a = some (.openFile (.text page))
      ∧ (work e page).1 ≠ page
      ∧ (visit work root e tree).2.node? a = some (.openFile (.text (work e page).1)) := by
  by_cases heditable : ∃ a page, Editable tree (joinPath root e.file) a page
  · rcases heditable with ⟨a, page, hpage⟩
    refine ⟨a, page, target?_eq_some_iff.2 hpage.leads, hpage.node, ?_,
      (editable_visit_self.2 ⟨page, hpage, rfl⟩).node⟩
    intro hsame
    rw [visit_of_editable hpage] at h
    simp only [hsame, if_true, reduceCtorEq] at h
  · -- a page that is missing, unreadable or locked has another outcome
    simp only [not_exists] at heditable
    cases hread : tree.read (joinPath root e.file) with
    | ok page =>
        rw [visit_of_locked hread fun a => heditable a page] at h
        by_cases hnew : (work e page).1 = page
        · rw [if_pos hnew] at h
          cases h
        · rw [if_neg hnew] at h
          cases h
    | error fault =>
        cases hholds : tree.holds (joinPath root e.file) with
        | true =>
            rw [visit_of_unreadable hholds hread] at h
            cases h
        | false =>
            rw [visit_of_missing hholds] at h
            cases h

/-- What it does not report as updated, it leaves alone, with all the tree. -/
theorem tree_visit_of_not_updated {e : Entry}
    (h : (visit work root e tree).1.outcome ≠ .updated) : (visit work root e tree).2 = tree := by
  refine tree_visit_of_fixed fun a page hpage => ?_
  by_contra hnew
  rw [visit_of_editable hpage] at h
  exact h (if_neg hnew)

/-- A run over some pages and more is the run over those and then that over the others. -/
theorem visitAll_append (work : Work) (root : Text) (es fs : List Entry) (tree : FileTree) :
    (visitAll work root (es ++ fs) tree).1
        = (visitAll work root es tree).1
          ++ (visitAll work root fs (visitAll work root es tree).2).1
      ∧ (visitAll work root (es ++ fs) tree).2
        = (visitAll work root fs (visitAll work root es tree).2).2 := by
  induction es generalizing tree with
  | nil => exact ⟨rfl, rfl⟩
  | cons e es ih =>
      rcases ih (visit work root e tree).2 with ⟨hreports, htree⟩
      simp only [List.cons_append, visitAll_cons]
      exact ⟨congrArg (_ :: ·) hreports, htree⟩

/-- The visit at a place of a run finds the tree that the pages in front of it leave. -/
theorem visit_at (work : Work) (root : Text) (tree : FileTree) {es : List Entry} {i : Nat}
    {e : Entry} (h : es[i]? = some e) :
    (visitAll work root es tree).1[i]?
        = some (visit work root e (visitAll work root (es.take i) tree).2).1
      ∧ (visitAll work root (es.take (i + 1)) tree).2
        = (visit work root e (visitAll work root (es.take i) tree).2).2 := by
  induction es generalizing i tree with
  | nil => cases h
  | cons f es ih =>
      cases i with
      | zero =>
          obtain rfl : f = e := Option.some.inj h
          exact ⟨rfl, rfl⟩
      | succ i =>
          rw [List.getElem?_cons_succ] at h
          exact ih _ h

/-- A run leaves every node that is not the file of a page it reports as updated. -/
theorem node_visitAll_of_not_updated {es : List Entry} {a : Address}
    (h : ∀ p ∈ es.zip (visitAll work root es tree).1, p.2.outcome = .updated →
      tree.target? root p.1 ≠ some a) :
    (visitAll work root es tree).2.node? a = tree.node? a := by
  induction es generalizing tree with
  | nil => rfl
  | cons e es ih =>
      rw [visitAll_cons, List.zip_cons_cons, List.forall_mem_cons] at h
      rcases h with ⟨hfirst, hrest⟩
      rw [visitAll_cons]
      -- the first visit moves no path, so the others lead where they led before
      have hmore : (visitAll work root es (visit work root e tree).2).2.node? a
          = (visit work root e tree).2.node? a := by
        refine ih fun p hp hupdated => ?_
        rw [target?_of_sameOutline (sameOutline_visit work root e tree).symm]
        exact hrest p hp hupdated
      refine hmore.trans ?_
      by_cases hupdated : (visit work root e tree).1.outcome = .updated
      · exact node_visit_other (hfirst hupdated)
      · rw [tree_visit_of_not_updated hupdated]

theorem framed_run (work : Work) (root : Text) (catalog : Catalog) (tree : FileTree) :
    Framed (run work root) root (fun e page => (work e page).1) catalog tree where
  stages i := by
    have hsplit := visitAll_append work root (catalog.entries.take i) (catalog.entries.drop i) tree
    rwa [List.take_append_drop] at hsplit
  outline := sameOutline_visitAll work root catalog.entries tree
  others _ h := node_visitAll_of_not_updated h
  idle i e he := by
    rcases visit_at work root tree he with ⟨hreport, htree⟩
    exact ⟨_, hreport, fun hidle => htree.trans (tree_visit_of_not_updated hidle)⟩
  written i e r he hr hupdated := by
    rcases visit_at work root tree he with ⟨hreport, htree⟩
    obtain rfl := Option.some.inj (hreport.symm.trans hr)
    rcases visit_of_updated hupdated with ⟨a, page, ha, hbefore, hnew, hafter⟩
    -- the pages in front of it move no path, so the file is the one it was at the start
    refine ⟨a, page, ?_, hbefore, hnew, (congrArg (node? · a) htree).trans hafter⟩
    rwa [target?_of_sameOutline (sameOutline_visitAll work root (catalog.entries.take i) tree)]

end FileTree

/-- A run of either kind changes only the files of pages that it reports as updated, and
    puts in them what the work makes of the texts it finds there. -/
theorem Batch.framed (b : Batch) (tree : FileTree) :
    Framed (fun c => Batch.wire FileTree.disk { b with catalog := c }) b.root
      (fun e page => (Page.wire page e.tag b.wanted).content) b.catalog tree
    ∧ Framed (fun c => Batch.clean FileTree.disk { b with catalog := c }) b.root
      (fun _ page => Page.clean page) b.catalog tree :=
  ⟨FileTree.framed_run (wiring b.wanted) b.root b.catalog tree,
    FileTree.framed_run cleaning b.root b.catalog tree⟩

end HelpWiring
