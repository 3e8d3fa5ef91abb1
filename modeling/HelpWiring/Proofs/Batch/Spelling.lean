import HelpWiring.Proofs.Batch.Isolation
import HelpWiring.Proofs.Catalog.Pairs
import HelpWiring.Proofs.Disk.Spelling

/-!
# From File Names to Files

A catalog lists no file name twice, and names are compared as they are written.
A run goes to files, so two spellings of one name would bring it to one page
twice, and the page would get the hook and the popup of both tags, in the order
of the catalog. Then the pages of a run are not independent of each other.

That is the only way, as long as no link is in the tree. `names_apart` says when
two names are one path and when they are one file, and that a catalog without
two spellings of one place brings every visit to a file of its own.

## Main definitions

* `PlacedOnce`: Entries whose paths lead to different places.
* `SpeltOnce`: Entries whose names are no two spellings of one place.

## Theorems

* `target?_eq_iff`: When two entries lead to one file.
* `apart_of_placedOnce`: Entries at different places lead to different files.
* `SpeltOnce.placedOnce`: Names that are spelt once lead to different places.
* `names_apart`: The names in a catalog, their paths and their files.
* `spelt_twice`: A page that is listed under two spellings.
-/

namespace HelpWiring

/-- Entries whose paths lead to different places, as seen from a working folder. -/
def PlacedOnce (home : Address) (root : Text) (es : List Entry) : Prop :=
  es.Pairwise fun e f =>
    Address.ofPath home (joinPath root e.file) ≠ Address.ofPath home (joinPath root f.file)

/-- Entries whose files are below the root, and no two spellings of one place among
    them. -/
structure SpeltOnce (es : List Entry) : Prop where
  relative : ∀ e ∈ es, IsRelative e.file
  below : ∀ e ∈ es, (below? e.file).isSome = true
  once : ∀ e ∈ es, ∀ f ∈ es, below? e.file = below? f.file → e.file = f.file

namespace SpeltOnce

variable {es : List Entry}

/-- Files that are listed once and spelt once have paths of their own. -/
theorem parts (h : SpeltOnce es) (hnodup : (es.map Entry.file).Nodup) (root : Text) :
    es.Pairwise fun e f => partsOf (joinPath root e.file) ≠ partsOf (joinPath root f.file) := by
  refine (List.pairwise_map.1 hnodup).imp_of_mem fun {e f} he hf hne hparts => hne ?_
  have hnames := (parts_joinPath_eq_iff (h.relative e he) (h.relative f hf)).1 hparts
  exact h.once e he f hf (below?_eq_of_names hnames.1)

/-- They have places of their own too, whatever the root and the working folder are. -/
theorem placedOnce (h : SpeltOnce es) (hnodup : (es.map Entry.file).Nodup) (home : Address)
    (root : Text) : PlacedOnce home root es := by
  rcases Address.ofPath_joinPath home root with ⟨folder, hfolder⟩
  refine (List.pairwise_map.1 hnodup).imp_of_mem fun {e f} he hf hne hplace => hne ?_
  rcases Option.isSome_iff_exists.1 (h.below e he) with ⟨x, hx⟩
  rcases Option.isSome_iff_exists.1 (h.below f hf) with ⟨y, hy⟩
  rw [hfolder _ (h.relative e he) x hx, hfolder _ (h.relative f hf) y hy] at hplace
  have hsame : below? e.file = below? f.file := by rw [hx, hy, List.append_cancel_right hplace]
  exact h.once e he f hf hsame

end SpeltOnce

namespace FileTree

variable {tree : FileTree} {root : Text}

/-- Without links, two entries that lead to files lead to one file if their paths lead to
    one place. -/
theorem target?_eq_iff (hlinks : tree.Linkless) {e f : Entry} {a b : Address}
    (ha : tree.target? root e = some a) (hb : tree.target? root f = some b) :
    a = b ↔ Address.ofPath tree.home (joinPath root e.file)
      = Address.ofPath tree.home (joinPath root f.file) := by
  rw [ofPath_of_fileAt hlinks (target?_eq_some_iff.1 ha),
    ofPath_of_fileAt hlinks (target?_eq_some_iff.1 hb)]

theorem apart_of_placedOnce (hlinks : tree.Linkless) {es : List Entry}
    (h : PlacedOnce tree.home root es) : Apart tree root es := by
  rw [Apart, List.Nodup, List.pairwise_filterMap]
  exact List.Pairwise.imp (fun {e f} hne a ha b hb hab =>
    hne ((target?_eq_iff hlinks ha hb).1 hab)) h

end FileTree

/-- The names in a catalog, their paths and their files. Under one root the same names are
    the same path, and without links paths that lead to the same place lead to the same
    file. So if no two paths lead to one place, the pages of a run are independent, and
    that is so under every root if no two names are spellings of one place. -/
theorem Batch.names_apart {pairs : List (Text × Text)} (b : Batch)
    (h : Catalog.ofPairs pairs = .ok b.catalog) :
    (∀ e ∈ b.catalog.entries, ∀ f ∈ b.catalog.entries, IsRelative e.file → IsRelative f.file →
      (partsOf (b.pathTo e) = partsOf (b.pathTo f)
        ↔ namesOf e.file = namesOf f.file
          ∧ (b.root = [] → (partsOf e.file).fromDot = (partsOf f.file).fromDot)))
    ∧ (∀ tree : FileTree, tree.Linkless →
      (∀ e ∈ b.catalog.entries, ∀ f ∈ b.catalog.entries, ∀ a c,
        tree.target? b.root e = some a → tree.target? b.root f = some c →
          (a = c ↔ Address.ofPath tree.home (b.pathTo e) = Address.ofPath tree.home (b.pathTo f)))
      ∧ (PlacedOnce tree.home b.root b.catalog.entries → tree.Apart b.root b.catalog.entries
        ∧ Independent tree b.root (fun c => Batch.wire FileTree.disk { b with catalog := c } tree)
          (fun e => wirePage FileTree.disk b.root b.wanted e tree) b.catalog
        ∧ Independent tree b.root (fun c => Batch.clean FileTree.disk { b with catalog := c } tree)
          (fun e => cleanPage FileTree.disk b.root e tree) b.catalog))
    ∧ (SpeltOnce b.catalog.entries → (∀ home, PlacedOnce home b.root b.catalog.entries)
      ∧ b.catalog.entries.Pairwise fun e f => partsOf (b.pathTo e) ≠ partsOf (b.pathTo f)) := by
  have hnodup := Catalog.nodup_files h
  refine ⟨fun e _ f _ he hf => parts_joinPath_eq_iff he hf, fun tree hlinks => ⟨?_, ?_⟩,
    fun hspelt => ⟨fun home => hspelt.placedOnce hnodup home b.root,
      hspelt.parts hnodup b.root⟩⟩
  · intro e _ f _ a c ha hc
    exact FileTree.target?_eq_iff hlinks ha hc
  · intro hplaced
    have hapart := FileTree.apart_of_placedOnce hlinks hplaced
    exact ⟨hapart, FileTree.independent_run (wiring b.wanted) hapart,
      FileTree.independent_run cleaning hapart⟩

/-- The pairs that `threePages` is made of. -/
def pagePairs : List (Text × Text) :=
  [("Home.tsx".toList, "home".toList), ("Map.tsx".toList, "map".toList),
    ("Gone.tsx".toList, "gone".toList)]

theorem linkless_pagesFolder : pagesFolder.Linkless :=
  FileTree.linkless_of_nodes (by simp [pagesFolder, Node.openFolder, Node.openFile])

theorem Batch.names_apart_three :
    Catalog.ofPairs pagePairs = .ok threePages.catalog
    ∧ PlacedOnce pagesFolder.home threePages.root threePages.catalog.entries
    ∧ (threePages.catalog.entries.Pairwise fun e f =>
      partsOf (threePages.pathTo e) ≠ partsOf (threePages.pathTo f))
    ∧ pagesFolder.Linkless ∧ pagesFolder.Apart threePages.root threePages.catalog.entries := by
  have hpairs : Catalog.ofPairs pagePairs = .ok threePages.catalog := by decide +kernel
  have hspelt : SpeltOnce threePages.catalog.entries :=
    ⟨by decide +kernel, by decide +kernel, by decide +kernel⟩
  rcases Batch.names_apart threePages hpairs with ⟨-, hfiles, hnames⟩
  rcases hnames hspelt with ⟨hplaced, hparts⟩
  exact ⟨hpairs, hplaced pagesFolder.home, hparts, linkless_pagesFolder,
    ((hfiles pagesFolder linkless_pagesFolder).2 (hplaced pagesFolder.home)).1⟩

/-- The first page of `threePages`, under two spellings and with two tags, for the hook. -/
def twoSpellings : Batch where
  root := "pages".toList
  catalog := ⟨[⟨"Home.tsx".toList, "home".toList⟩, ⟨"./Home.tsx".toList, "map".toList⟩]⟩
  wanted := .ofKinds [.hook]

/-- The two names are two entries of one catalog, and one path. The page gets a hook
    call for each tag, and what it holds then depends on the order of the entries. A name
    that goes up and comes down again is another path, and so is one that starts at the
    root folder, and both lead to the same page all the same. -/
theorem Batch.spelt_twice :
    Catalog.ofPairs [("Home.tsx".toList, "home".toList), ("./Home.tsx".toList, "map".toList)]
      = .ok twoSpellings.catalog
    ∧ partsOf (twoSpellings.pathTo ⟨"Home.tsx".toList, "home".toList⟩)
      = partsOf (twoSpellings.pathTo ⟨"./Home.tsx".toList, "map".toList⟩)
    ∧ pagesFolder.Linkless
    ∧ (∀ e ∈ twoSpellings.catalog.entries, pagesFolder.target? twoSpellings.root e
      = some ["Home.tsx".toList, "pages".toList, "work".toList])
    ∧ (twoSpellings.wire FileTree.disk pagesFolder).1.files.map PageReport.outcome
      = [.updated, .updated]
    ∧ (Batch.wire FileTree.disk
        { twoSpellings with catalog := ⟨twoSpellings.catalog.entries.reverse⟩ } pagesFolder).2
      ≠ (twoSpellings.wire FileTree.disk pagesFolder).2
    ∧ ∀ file ∈ ["../../work/pages/Home.tsx".toList, "/work/pages/Home.tsx".toList],
      partsOf (twoSpellings.pathTo ⟨file, "map".toList⟩)
        ≠ partsOf (twoSpellings.pathTo ⟨"Home.tsx".toList, "home".toList⟩)
      ∧ pagesFolder.target? twoSpellings.root ⟨file, "map".toList⟩
        = some ["Home.tsx".toList, "pages".toList, "work".toList] :=
  ⟨by decide +kernel, by decide +kernel, linkless_pagesFolder, by decide +kernel,
    by decide +kernel, by decide +kernel, by decide +kernel⟩

end HelpWiring
