import HelpWiring.Catalog.Basic
import Mathlib.Data.List.Basic

/-!
# Which Pairs Make a Catalog

A catalog is made of pairs in one pass, and the files that came before are
carried along to know a repeat. `ofPairs_eq_ok_iff` says the same without the
pass: pairs make a catalog if no name and no tag is blank and no file is listed
twice, and then the catalog lists just these pairs.

The pass stops at the first fault. If nothing is blank, the only fault there can
be is a repeat.

## Main definitions

* `NoBlanks`: Pairs without a blank name or a blank tag.

## Theorems

* `pairFault?_eq_none_iff`: Which pairs have no fault.
* `ofPairs_eq_ok_iff`: Which pairs make a catalog.
* `ofPairs_of_noBlanks`: What becomes of pairs without blanks.
* `ofYaml_eq_ok_iff`: Which texts make a catalog.
-/

namespace HelpWiring

namespace Catalog

/-- Pairs without a blank name or a blank tag. -/
def NoBlanks (pairs : List (Text × Text)) : Prop :=
  ∀ p ∈ pairs, p.1.isAllBlank = false ∧ p.2.isAllBlank = false

instance (pairs : List (Text × Text)) : Decidable (NoBlanks pairs) :=
  inferInstanceAs (Decidable (∀ p ∈ pairs, p.1.isAllBlank = false ∧ p.2.isAllBlank = false))

theorem pairFault?_eq_none_iff {seen : List Text} {file tag : Text} :
    pairFault? seen file tag = none
      ↔ file.isAllBlank = false ∧ tag.isAllBlank = false ∧ file ∉ seen := by
  rw [pairFault?]
  cases file.isAllBlank <;> cases tag.isAllBlank <;> by_cases h : file ∈ seen <;>
    simp only [h, if_true, if_false, Bool.false_eq_true, reduceCtorEq, not_true_eq_false,
      not_false_eq_true, and_self, and_false, false_and]

/-- The first pair has no fault, and the others make entries after it. -/
theorem entriesAfter_cons_eq_ok_iff {seen : List Text} {file tag : Text}
    {pairs : List (Text × Text)} {es : List Entry} :
    entriesAfter seen ((file, tag) :: pairs) = .ok es
      ↔ pairFault? seen file tag = none
        ∧ ∃ rest, entriesAfter (file :: seen) pairs = .ok rest ∧ ⟨file, tag⟩ :: rest = es := by
  rw [entriesAfter]
  cases pairFault? seen file tag with
  | some fault => simp only [reduceCtorEq, false_and]
  | none =>
      rw [and_iff_right rfl]
      cases entriesAfter (file :: seen) pairs with
      | error fault => simp only [Except.map, reduceCtorEq, false_and, exists_false]
      | ok rest => simp only [Except.map, Except.ok.injEq, exists_eq_left']

theorem entriesAfter_eq_ok_iff {seen : List Text} {pairs : List (Text × Text)} {es : List Entry} :
    entriesAfter seen pairs = .ok es
      ↔ es = (pairs.map fun p => ⟨p.1, p.2⟩) ∧ NoBlanks pairs ∧ (pairs.map Prod.fst).Nodup
        ∧ ∀ p ∈ pairs, p.1 ∉ seen := by
  induction pairs generalizing seen es with
  | nil => simp only [entriesAfter, Except.ok.injEq, List.map_nil, NoBlanks, List.not_mem_nil,
      false_implies, implies_true, List.nodup_nil, and_true, eq_comm]
  | cons p ps ih =>
      obtain ⟨file, tag⟩ := p
      simp only [entriesAfter_cons_eq_ok_iff, pairFault?_eq_none_iff, ih, NoBlanks,
        List.map_cons, List.nodup_cons, List.forall_mem_cons]
      -- that no later file is this one is said on the left with the files that were seen
      have hapart : (∀ q ∈ ps, q.1 ∉ file :: seen)
          ↔ file ∉ ps.map Prod.fst ∧ ∀ q ∈ ps, q.1 ∉ seen := by
        simp only [List.mem_cons, not_or, forall_and, List.mem_map, not_exists, not_and]
      rw [hapart]
      constructor
      · rintro ⟨⟨hfile, htag, hnew⟩, _, ⟨rfl, hblank, hnodup, hother, hseen⟩, rfl⟩
        exact ⟨rfl, ⟨⟨hfile, htag⟩, hblank⟩, ⟨hother, hnodup⟩, hnew, hseen⟩
      · rintro ⟨rfl, ⟨⟨hfile, htag⟩, hblank⟩, ⟨hother, hnodup⟩, hnew, hseen⟩
        exact ⟨⟨hfile, htag, hnew⟩, _, ⟨rfl, hblank, hnodup, hother, hseen⟩, rfl⟩

/-- Pairs make a catalog if nothing in them is blank and no file is listed twice. -/
theorem ofPairs_eq_ok_iff {pairs : List (Text × Text)} {c : Catalog} :
    ofPairs pairs = .ok c
      ↔ c = ⟨pairs.map fun p => ⟨p.1, p.2⟩⟩ ∧ NoBlanks pairs ∧ (pairs.map Prod.fst).Nodup := by
  have hentries : ∀ es, entriesAfter [] pairs = .ok es
      ↔ es = (pairs.map fun p => ⟨p.1, p.2⟩) ∧ NoBlanks pairs ∧ (pairs.map Prod.fst).Nodup := by
    intro es
    rw [entriesAfter_eq_ok_iff]
    simp only [List.not_mem_nil, not_false_eq_true, implies_true, and_true]
  rw [ofPairs]
  cases h : entriesAfter [] pairs with
  | error fault =>
      have hnone : Except.error fault ≠ Except.ok c := by
        simp only [ne_eq, reduceCtorEq, not_false_eq_true]
      refine iff_of_false hnone fun hok => ?_
      rw [(hentries _).2 ⟨rfl, hok.2⟩] at h
      cases h
  | ok es =>
      rcases (hentries es).1 h with ⟨rfl, hpairs⟩
      simp only [Except.map, Except.ok.injEq, hpairs, and_true, eq_comm]

theorem nodup_files {pairs : List (Text × Text)} {c : Catalog} (h : ofPairs pairs = .ok c) :
    (c.entries.map Entry.file).Nodup := by
  rcases ofPairs_eq_ok_iff.1 h with ⟨rfl, -, hnodup⟩
  rwa [List.map_map]

theorem entriesAfter_of_noBlanks {pairs : List (Text × Text)} (h : NoBlanks pairs)
    (seen : List Text) :
    (∃ es, entriesAfter seen pairs = .ok es)
    ∨ ∃ file ∈ pairs.map Prod.fst, entriesAfter seen pairs = .error (.repeatedFile file) := by
  induction pairs generalizing seen with
  | nil => exact Or.inl ⟨[], rfl⟩
  | cons p ps ih =>
      obtain ⟨file, tag⟩ := p
      rcases List.forall_mem_cons.1 h with ⟨⟨hfile, htag⟩, hrest⟩
      by_cases hseen : file ∈ seen
      · refine Or.inr ⟨file, List.mem_cons_self, ?_⟩
        have hfault : pairFault? seen file tag = some (.repeatedFile file) := by
          rw [pairFault?, if_neg (by rw [hfile]; decide), if_neg (by rw [htag]; decide),
            if_pos hseen]
        rw [entriesAfter, hfault]
      · have hfault := pairFault?_eq_none_iff.2 ⟨hfile, htag, hseen⟩
        rw [entriesAfter, hfault]
        rcases ih hrest (file :: seen) with ⟨es, hes⟩ | ⟨other, hother, hes⟩
        · exact Or.inl ⟨_, by rw [hes]; rfl⟩
        · exact Or.inr ⟨other, List.mem_cons_of_mem _ hother, by rw [hes]; rfl⟩

/-- Pairs without blanks make a catalog, or a file is listed twice. -/
theorem ofPairs_of_noBlanks {pairs : List (Text × Text)} (h : NoBlanks pairs) :
    (∃ c, ofPairs pairs = .ok c)
    ∨ ∃ file ∈ pairs.map Prod.fst, ofPairs pairs = .error (.repeatedFile file) := by
  rw [ofPairs]
  rcases entriesAfter_of_noBlanks h [] with ⟨es, hes⟩ | ⟨file, hfile, hes⟩
  · exact Or.inl ⟨_, by rw [hes]; rfl⟩
  · exact Or.inr ⟨file, hfile, by rw [hes]; rfl⟩

/-- A text makes a catalog if it is a mapping whose pairs do. -/
theorem ofYaml_eq_ok_iff {text : Text} {c : Catalog} :
    ofYaml text = .ok c ↔ ∃ pairs, Yaml.mapping? text = some pairs ∧ ofPairs pairs = .ok c := by
  rw [ofYaml]
  cases Yaml.mapping? text with
  | none => simp only [reduceCtorEq, false_and, exists_false]
  | some pairs =>
      simp only [Option.some.injEq, exists_eq_left']
      cases ofPairs pairs with
      | error fault => simp only [Except.mapError, reduceCtorEq]
      | ok d => simp only [Except.mapError, Except.ok.injEq]

end Catalog

end HelpWiring
