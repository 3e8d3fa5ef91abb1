import HelpWiring.Proofs.Batch.Visit
import Mathlib.Data.List.Perm.Basic

/-!
# Pages Are Independent

A run visits its pages one after the other, each on the tree that the ones
before it left. If no two pages are the same file, this is as good as visiting
each page on its own: the visits change different nodes and move no path. So
the report of a page and the text in its file do not depend on the pages around
it, nor on where it stands in the catalog. A page that is missing, or whose text
cannot be read and replaced, changes nothing, and can be left out.

Two entries can name one file in different ways, by a dot on the way or by a
link. Then the second visit finds what the first one wrote, so the entries are
compared by where their paths lead.

## Main definitions

* `FileTree.Apart`: Entries that lead to different files.
* `Independent`: A run as its pages on their own.

## Theorems

* `sameOutline_visitAll`, `node_visitAll_other`: The frame of a run.
* `reports_visitAll`: The reports are those of the pages on their own.
* `node_visitAll`: So is what the files hold.
* `visit_comm`, `visitAll_perm`: The order of the pages does not matter.
* `visitAll_filter`: Pages that cannot be edited can be left out.
* `pages_independent`: The same for both kinds of run.
-/

namespace HelpWiring

namespace FileTree

/-- Entries that lead to different files, as far as they lead to files. -/
def Apart (tree : FileTree) (root : Text) (es : List Entry) : Prop :=
  (es.filterMap (tree.target? root)).Nodup

instance (tree : FileTree) (root : Text) (es : List Entry) : Decidable (Apart tree root es) :=
  inferInstanceAs (Decidable (List.Nodup _))

variable {work : Work} {root : Text} {tree : FileTree} {es : List Entry}

theorem apart_cons {e : Entry} : Apart tree root (e :: es)
    ↔ (∀ f ∈ es, ∀ a, tree.target? root e = some a → tree.target? root f ≠ some a)
      ∧ Apart tree root es := by
  unfold Apart
  cases he : tree.target? root e with
  | none =>
      rw [List.filterMap_cons_none he]
      exact (and_iff_right fun f _ a h => nomatch h).symm
  | some b =>
      rw [List.filterMap_cons_some he, List.nodup_cons, List.mem_filterMap]
      refine and_congr_left fun _ => ⟨?_, ?_⟩
      · rintro h f hf a ⟨⟩ hfa
        exact h ⟨f, hf, hfa⟩
      · rintro h ⟨f, hf, hfb⟩
        exact h f hf b rfl hfb

theorem Apart.perm {es' : List Entry} (h : Apart tree root es) (hperm : es.Perm es') :
    Apart tree root es' :=
  (hperm.filterMap _).nodup_iff.1 h

theorem Apart.filter (h : Apart tree root es) (kept : Entry → Bool) :
    Apart tree root (es.filter kept) :=
  List.Nodup.sublist (List.filter_sublist.filterMap _) h

theorem Apart.of_sameOutline {t : FileTree} (h : Apart tree root es) (ht : SameOutline tree t) :
    Apart t root es := by
  unfold Apart at h ⊢
  rwa [funext fun e => target?_of_sameOutline ht.symm root e]

/-- Two pages that are apart do not see each other's visits. -/
theorem read_visit_other {e f : Entry}
    (h : ∀ a, tree.target? root e = some a → tree.target? root f ≠ some a) :
    (visit work root e tree).2.read (joinPath root f.file) = tree.read (joinPath root f.file) := by
  refine read_of_sameOutline (sameOutline_visit work root e tree) fun a ha => ?_
  exact node_visit_other fun he => h a he (target?_eq_some_iff.2 ha)

theorem report_visit_other {e f : Entry}
    (h : ∀ a, tree.target? root e = some a → tree.target? root f ≠ some a) :
    (visit work root f (visit work root e tree).2).1 = (visit work root f tree).1 :=
  report_visit_congr (sameOutline_visit work root e tree) (read_visit_other h)

theorem editable_visit_other {e f : Entry}
    (h : ∀ a, tree.target? root e = some a → tree.target? root f ≠ some a) {a : Address}
    {text : Text} : Editable (visit work root e tree).2 (joinPath root f.file) a text
      ↔ Editable tree (joinPath root f.file) a text :=
  have hvisit := sameOutline_visit work root e tree
  ⟨fun hf => hf.of_sameOutline hvisit.symm ((read_visit_other h).symm.trans hf.read),
    fun hf => hf.of_sameOutline hvisit ((read_visit_other h).trans hf.read)⟩

theorem sameOutline_visitAll (work : Work) (root : Text) (es : List Entry) (tree : FileTree) :
    SameOutline tree (visitAll work root es tree).2 := by
  induction es generalizing tree with
  | nil => exact SameOutline.refl tree
  | cons e es ih =>
      rw [visitAll_cons]
      exact (sameOutline_visit work root e tree).trans (ih _)

/-- A run leaves every node that is not the file of one of its pages. -/
theorem node_visitAll_other {a : Address} (h : ∀ e ∈ es, tree.target? root e ≠ some a) :
    (visitAll work root es tree).2.node? a = tree.node? a := by
  induction es generalizing tree with
  | nil => rfl
  | cons e es ih =>
      rw [visitAll_cons]
      refine (ih fun f hf => ?_).trans (node_visit_other (h e List.mem_cons_self))
      rw [target?_of_sameOutline (sameOutline_visit work root e tree).symm]
      exact h f (List.mem_cons_of_mem e hf)

/-- Every page is reported as if it was the only one. -/
theorem reports_visitAll (h : Apart tree root es) :
    (visitAll work root es tree).1 = es.map fun e => (visit work root e tree).1 := by
  induction es generalizing tree with
  | nil => rfl
  | cons e es ih =>
      rw [apart_cons] at h
      have hrest := h.2.of_sameOutline (sameOutline_visit work root e tree)
      rw [visitAll_cons, List.map_cons, ih hrest]
      refine congrArg _ (List.map_congr_left fun f hf => ?_)
      exact report_visit_other (h.1 f hf)

/-- Every file is left as if its page was the only one. -/
theorem node_visitAll (h : Apart tree root es) {e : Entry} (he : e ∈ es) {a : Address}
    (ha : tree.target? root e = some a) :
    (visitAll work root es tree).2.node? a = (visit work root e tree).2.node? a := by
  induction es generalizing tree with
  | nil => exact absurd he List.not_mem_nil
  | cons f es ih =>
      rw [apart_cons] at h
      rw [visitAll_cons]
      have hsame : ∀ g, (visit work root f tree).2.target? root g = tree.target? root g :=
        target?_of_sameOutline (sameOutline_visit work root f tree).symm root
      rcases List.mem_cons.1 he with rfl | he
      · -- it is visited first, and the others leave its file alone
        refine node_visitAll_other fun g hg => ?_
        rw [hsame]
        exact h.1 g hg a ha
      · -- it is visited later, and the first page leaves its file alone
        have hrest := h.2.of_sameOutline (sameOutline_visit work root f tree)
        rw [ih hrest he ((hsame e).trans ha), node_visit_self ((hsame e).trans ha),
          node_visit_self ha, node_visit_other fun hf => h.1 e he a hf ha]

/-- The text behind the path of a page after a run. -/
theorem read_visitAll (h : Apart tree root es) {e : Entry} (he : e ∈ es) :
    (visitAll work root es tree).2.read (joinPath root e.file)
      = (visit work root e tree).2.read (joinPath root e.file) := by
  have hvisit := sameOutline_visit work root e tree
  refine read_of_sameOutline (hvisit.symm.trans (sameOutline_visitAll work root es tree))
    fun a ha => ?_
  rw [← fileAt_of_sameOutline hvisit] at ha
  exact node_visitAll h he (target?_eq_some_iff.2 ha)

theorem editable_visitAll (h : Apart tree root es) {e : Entry} (he : e ∈ es) {a : Address}
    {text : Text} : Editable (visitAll work root es tree).2 (joinPath root e.file) a text
      ↔ Editable (visit work root e tree).2 (joinPath root e.file) a text :=
  have hrun := (sameOutline_visit work root e tree).symm.trans
    (sameOutline_visitAll work root es tree)
  have hread : (visitAll work root es tree).2.read (joinPath root e.file)
      = (visit work root e tree).2.read (joinPath root e.file) := read_visitAll h he
  ⟨fun ha => ha.of_sameOutline hrun.symm (hread.symm.trans ha.read),
    fun ha => ha.of_sameOutline hrun (hread.trans ha.read)⟩

/-- The visits of two pages that are apart can be swapped. -/
theorem visit_comm {e f : Entry}
    (h : ∀ a, tree.target? root e = some a → tree.target? root f ≠ some a) :
    (visit work root f (visit work root e tree).2).2
      = (visit work root e (visit work root f tree).2).2 := by
  have hflip : ∀ a, tree.target? root f = some a → tree.target? root e ≠ some a :=
    fun a hf he => h a he hf
  rcases visit_cases work root e tree with ⟨a, page, ha, hetree⟩ | ⟨hnone, hetree⟩
  · rcases visit_cases work root f tree with ⟨b, text, hb, hftree⟩ | ⟨hnone, hftree⟩
    · -- both pages are edited, in files that differ
      have hne : a ≠ b := by
        rintro rfl
        exact h a (target?_eq_some_iff.2 ha.leads) (target?_eq_some_iff.2 hb.leads)
      rw [visit_of_editable ((editable_visit_other h).2 hb),
        visit_of_editable ((editable_visit_other hflip).2 ha), hetree, hftree]
      exact (set_comm hne ha.node hb.node _ _).symm
    · rw [hftree, tree_visit_of_not_editable fun b text hb =>
        hnone b text ((editable_visit_other h).1 hb)]
  · rw [hetree, tree_visit_of_not_editable fun a page ha =>
      hnone a page ((editable_visit_other hflip).1 ha)]

/-- The pages of a run can be visited in any order. -/
theorem visitAll_perm {es' : List Entry} (hperm : es.Perm es') (h : Apart tree root es) :
    (visitAll work root es tree).2 = (visitAll work root es' tree).2 := by
  induction hperm generalizing tree with
  | nil => rfl
  | cons e hperm ih =>
      rw [apart_cons] at h
      exact ih (h.2.of_sameOutline (sameOutline_visit work root e tree))
  | swap e f es =>
      rw [apart_cons] at h
      simp only [visitAll_cons]
      rw [visit_comm (h.1 e List.mem_cons_self)]
  | trans hperm hperm' ih ih' => exact (ih h).trans (ih' (h.perm hperm))

/-- Pages whose texts cannot be read and replaced can be left out. -/
theorem visitAll_filter {kept : Entry → Bool}
    (h : ∀ e ∈ es, kept e = false → ∀ a text, ¬ Editable tree (joinPath root e.file) a text)
    (hapart : Apart tree root es) :
    (visitAll work root (es.filter kept) tree).2 = (visitAll work root es tree).2 := by
  induction es generalizing tree with
  | nil => rfl
  | cons e es ih =>
      rw [apart_cons] at hapart
      have hrest := hapart.2.of_sameOutline (sameOutline_visit work root e tree)
      have ih := @ih (visit work root e tree).2 (fun f hf hkept a text heditable =>
        h f (List.mem_cons_of_mem e hf) hkept a text
          ((editable_visit_other (hapart.1 f hf)).1 heditable)) hrest
      rw [visitAll_cons, ← ih]
      cases hkept : kept e with
      | true => rw [List.filter_cons_of_pos hkept, visitAll_cons]
      | false =>
          -- a page that is left out would have left the tree as it is
          rw [List.filter_cons_of_neg (by rw [hkept]; decide),
            tree_visit_of_not_editable (h e List.mem_cons_self hkept)]

end FileTree

namespace Summary

theorem add_comm (s : Summary) (o o' : Outcome) : (s.add o).add o' = (s.add o').add o := by
  cases o <;> cases o' <;> simp only [add]

/-- The tally does not depend on the order. -/
theorem ofOutcomes_perm {os os' : List Outcome} (h : os.Perm os') :
    ofOutcomes os = ofOutcomes os' :=
  h.foldl_eq' (fun o _ o' _ s => add_comm s o o') zero

end Summary

/-- A run over a catalog as its pages on their own. `run` is the run over any
    catalog and `solo` the work on any page alone, from the same tree. -/
structure Independent (tree : FileTree) (root : Text) (run : Catalog → Report × FileTree)
    (solo : Entry → Except Fault PageReport × FileTree) (catalog : Catalog) : Prop where
  /-- A page is reported as on its own. A fault makes it a failed page without steps. -/
  reports : (run catalog).1.files = catalog.entries.map fun e => reportOf e (solo e).1
  /-- The path of a page leads to the text that it has on its own. -/
  texts : ∀ e ∈ catalog.entries,
    (run catalog).2.read (joinPath root e.file) = (solo e).2.read (joinPath root e.file)
  /-- The file of a page is left as by the page on its own. -/
  files : ∀ e ∈ catalog.entries, ∀ a, tree.target? root e = some a →
    (run catalog).2.node? a = (solo e).2.node? a
  /-- Nothing else changes. -/
  others : ∀ a, (∀ e ∈ catalog.entries, tree.target? root e ≠ some a) →
    (run catalog).2.node? a = tree.node? a
  /-- Another order gives the same tree and tally, and the same report of each page. -/
  order : ∀ c : Catalog, c.entries.Perm catalog.entries →
    (run c).2 = (run catalog).2
    ∧ (c.entries.zip (run c).1.files).Perm (catalog.entries.zip (run catalog).1.files)
    ∧ (run c).1.summary = (run catalog).1.summary
  /-- Without some pages that are missing, or that cannot be read and replaced, the others
      are left and reported the same. -/
  absent : ∀ kept : Entry → Bool,
    (∀ e ∈ catalog.entries, kept e = false →
      ∀ a text, ¬ tree.Editable (joinPath root e.file) a text) →
    (run ⟨catalog.entries.filter kept⟩).2 = (run catalog).2
    ∧ (catalog.entries.filter kept).zip (run ⟨catalog.entries.filter kept⟩).1.files
      = (catalog.entries.zip (run catalog).1.files).filter fun p => kept p.1

namespace FileTree

/-- A run over a catalog on a file tree. -/
def run (work : Work) (root : Text) (catalog : Catalog) (tree : FileTree) : Report × FileTree :=
  (.ofFiles (visitAll work root catalog.entries tree).1,
    (visitAll work root catalog.entries tree).2)

theorem independent_run (work : Work) {root : Text} {catalog : Catalog} {tree : FileTree}
    (h : Apart tree root catalog.entries) :
    Independent tree root (fun c => run work root c tree)
      (fun e => visitPage disk work root e tree) catalog where
  reports := reports_visitAll h
  texts _ he := read_visitAll h he
  files _ he _ ha := node_visitAll h he ha
  others _ ha := node_visitAll_other ha
  order c hperm := by
    have hc := h.perm hperm.symm
    refine ⟨visitAll_perm hperm hc, ?_, ?_⟩
    · simp only [run, Report.ofFiles, reports_visitAll h, reports_visitAll hc,
        ← List.map_prod_left_eq_zip]
      exact hperm.map _
    · simp only [run, Report.ofFiles, reports_visitAll h, reports_visitAll hc]
      exact Summary.ofOutcomes_perm ((hperm.map _).map _)
  absent kept hkept := by
    refine ⟨visitAll_filter hkept h, ?_⟩
    simp only [run, Report.ofFiles, reports_visitAll h, reports_visitAll (h.filter kept),
      ← List.map_prod_left_eq_zip, List.filter_map]
    rfl

end FileTree

/-- The pages of a run do not depend on each other, whether they are wired or cleaned. -/
theorem Batch.pages_independent (b : Batch) (tree : FileTree)
    (h : tree.Apart b.root b.catalog.entries) :
    Independent tree b.root (fun c => Batch.wire FileTree.disk { b with catalog := c } tree)
      (fun e => wirePage FileTree.disk b.root b.wanted e tree) b.catalog
    ∧ Independent tree b.root (fun c => Batch.clean FileTree.disk { b with catalog := c } tree)
      (fun e => cleanPage FileTree.disk b.root e tree) b.catalog :=
  ⟨FileTree.independent_run (wiring b.wanted) h, FileTree.independent_run cleaning h⟩

/-- A page to wire, one that is no text, and one that is missing. -/
def threePages : Batch where
  root := "/work/pages".toList
  catalog := ⟨[⟨"Home.tsx".toList, "home".toList⟩, ⟨"Map.tsx".toList, "map".toList⟩,
    ⟨"Gone.tsx".toList, "gone".toList⟩]⟩
  wanted := .all

/-- A tree for `threePages`. -/
def pagesFolder : FileTree where
  nodes := [(["work".toList], .openFolder), (["pages".toList, "work".toList], .openFolder),
    (["Home.tsx".toList, "pages".toList, "work".toList], .openFile (.text
      ("import a\nexport function HomePage() \x7b\n  const [x, y] = f();\n".toList
        ++ "  return (\n    <div>\n    </div>\n  );\n\x7d\n".toList))),
    (["Map.tsx".toList, "pages".toList, "work".toList], .openFile (.binary [255]))]
  home := ["work".toList]

theorem Batch.pages_independent_three :
    pagesFolder.Apart threePages.root threePages.catalog.entries
    ∧ Independent pagesFolder threePages.root
        (fun c => Batch.wire FileTree.disk { threePages with catalog := c } pagesFolder)
        (fun e => wirePage FileTree.disk threePages.root threePages.wanted e pagesFolder)
        threePages.catalog
    ∧ Independent pagesFolder threePages.root
        (fun c => Batch.clean FileTree.disk { threePages with catalog := c } pagesFolder)
        (fun e => cleanPage FileTree.disk threePages.root e pagesFolder) threePages.catalog :=
  ⟨by decide +kernel, Batch.pages_independent threePages pagesFolder (by decide +kernel)⟩

end HelpWiring
