import HelpWiring.Batch
import HelpWiring.Proofs.Catalog.Pairs
import Mathlib.Data.List.DropRight

/-!
# The First Fault in a Catalog

Pairs are checked from the top, each against the files above it, and the first
one at fault decides. `ofPairs_blames_first` says both what is accepted and what
is blamed. The pairs above the one that is blamed would have made a catalog of
their own, so nothing is wrong above it, and whatever is wrong below it has not
been looked at.

Of two faults of one pair, a blank file name hides a blank tag, and either hides
that the file comes twice. `Faulty` has one constructor for each, and each asks
that the faults before it are not there.

A message names the file that it is about, with one exception: of a name that is
blank it says only that there is none, so a name made of blanks is not shown.

All catalogs come from pairs in the end, those of a catalog file as well. So what
the check asks for holds of every catalog that is handed out.

## Main definitions

* `Text.trimmed`: A text without the blanks around it.
* `Valid`: What is asked of a catalog.
* `Faulty`: What is wrong with a pair below some files.
* `FirstFault`: The pair that is blamed.

## Theorems

* `isAllBlank_iff`: What is blank has nothing left when it is trimmed.
* `ofPairs_eq_ok_iff_valid`: Which pairs are accepted.
* `ofPairs_eq_error_iff`: Which pair is blamed.
* `Faulty.message`: What is said about it.
* `valid_of_ofYaml`, `valid_of_loadCatalog`: Catalogs from elsewhere.
* `ofPairs_blames_first`: All of these together.
* `blank_name_unnamed`: A file that is not named.
-/

namespace HelpWiring

/-- A text without the blanks around it. -/
def Text.trimmed (t : Text) : Text := List.rdropWhile isBlank (t.dropWhile isBlank)

theorem Text.isAllBlank_iff {t : Text} : t.isAllBlank = true ↔ t.trimmed = [] := by
  rw [isAllBlank, trimmed, List.rdropWhile_eq_nil_iff, List.all_eq_true]
  constructor
  · intro h c hc
    exact h c ((List.dropWhile_sublist isBlank).mem hc)
  · intro h
    -- what is left starts with something that is not blank, if there is anything
    rcases hleft : t.dropWhile isBlank with _ | ⟨c, rest⟩
    · exact List.dropWhile_eq_nil_iff.1 hleft
    · have hhead := List.head?_dropWhile_not isBlank t
      rw [hleft] at hhead h
      have hc : isBlank c = false := hhead
      rw [h c List.mem_cons_self] at hc
      exact absurd hc Bool.true_eq_false.mp

theorem Text.isAllBlank_eq_false_iff {t : Text} : t.isAllBlank = false ↔ t.trimmed ≠ [] := by
  rw [← Bool.not_eq_true, isAllBlank_iff]

namespace Catalog

/-- What is asked of a catalog. -/
structure Valid (c : Catalog) : Prop where
  files : ∀ e ∈ c.entries, e.file.trimmed ≠ []
  tags : ∀ e ∈ c.entries, e.tag.trimmed ≠ []
  once : (c.entries.map Entry.file).Nodup

/-- The catalog that lists some pairs, valid or not. -/
def listing (pairs : List (Text × Text)) : Catalog := ⟨pairs.map fun p => ⟨p.1, p.2⟩⟩

/-- What is wrong with a pair below some files. Only the first thing counts. -/
inductive Faulty (above : List Text) (file tag : Text) : CatalogFault → Prop
  | blankFile (hfile : file.trimmed = []) : Faulty above file tag .blankFile
  | blankTag (hfile : file.trimmed ≠ []) (htag : tag.trimmed = []) :
      Faulty above file tag (.blankTag file)
  | repeatedFile (hfile : file.trimmed ≠ []) (htag : tag.trimmed ≠ []) (hrepeat : file ∈ above) :
      Faulty above file tag (.repeatedFile file)

/-- The first pair at fault, below pairs that would make a catalog. -/
structure FirstFault (pairs before : List (Text × Text)) (file tag : Text)
    (fault : CatalogFault) : Prop where
  place : ∃ after, pairs = before ++ (file, tag) :: after
  sound : (listing before).Valid
  faulty : Faulty (before.map Prod.fst) file tag fault

section

variable {pairs : List (Text × Text)} {above seen : List Text} {file tag : Text}
  {fault : CatalogFault}

theorem valid_listing_iff :
    (listing pairs).Valid ↔ NoBlanks pairs ∧ (pairs.map Prod.fst).Nodup := by
  have hfiles : (listing pairs).entries.map Entry.file = pairs.map Prod.fst := List.map_map
  have hentries : ∀ P : Entry → Prop,
      (∀ e ∈ (listing pairs).entries, P e) ↔ ∀ p ∈ pairs, P ⟨p.1, p.2⟩ := fun P =>
    List.forall_mem_map
  constructor
  · rintro ⟨hfile, htag, honce⟩
    rw [hentries] at hfile htag
    rw [hfiles] at honce
    exact ⟨fun p hp => ⟨Text.isAllBlank_eq_false_iff.2 (hfile p hp),
      Text.isAllBlank_eq_false_iff.2 (htag p hp)⟩, honce⟩
  · rintro ⟨hblank, honce⟩
    refine ⟨(hentries _).2 fun p hp => ?_, (hentries _).2 fun p hp => ?_, hfiles ▸ honce⟩
    · exact Text.isAllBlank_eq_false_iff.1 (hblank p hp).1
    · exact Text.isAllBlank_eq_false_iff.1 (hblank p hp).2

/-- Pairs are accepted exactly if the catalog that lists them is valid. -/
theorem ofPairs_eq_ok_iff_valid {c : Catalog} :
    ofPairs pairs = .ok c ↔ c = listing pairs ∧ c.Valid := by
  rw [ofPairs_eq_ok_iff, ← listing]
  refine and_congr_right fun hc => ?_
  rw [hc, valid_listing_iff]

theorem pairFault?_eq_some_iff :
    pairFault? seen file tag = some fault ↔ Faulty seen file tag fault := by
  rw [pairFault?]
  constructor
  · intro h
    split at h
    · rename_i hfile
      exact Option.some.inj h ▸ .blankFile (Text.isAllBlank_iff.1 hfile)
    · rename_i hfile
      have hfile' := mt Text.isAllBlank_iff.2 hfile
      split at h
      · rename_i htag
        exact Option.some.inj h ▸ .blankTag hfile' (Text.isAllBlank_iff.1 htag)
      · rename_i htag
        split at h
        · rename_i hseen
          exact Option.some.inj h ▸ .repeatedFile hfile' (mt Text.isAllBlank_iff.2 htag) hseen
        · cases h
  · rintro (hfile | ⟨hfile, htag⟩ | ⟨hfile, htag, hseen⟩)
    · rw [if_pos (Text.isAllBlank_iff.2 hfile)]
    · rw [if_neg (mt Text.isAllBlank_iff.1 hfile), if_pos (Text.isAllBlank_iff.2 htag)]
    · rw [if_neg (mt Text.isAllBlank_iff.1 hfile), if_neg (mt Text.isAllBlank_iff.1 htag),
        if_pos hseen]

/-- It only matters whether the file itself is above. -/
theorem Faulty.congr (h : Faulty above file tag fault) (hmem : file ∈ above → file ∈ seen) :
    Faulty seen file tag fault := by
  cases h with
  | blankFile hfile => exact .blankFile hfile
  | blankTag hfile htag => exact .blankTag hfile htag
  | repeatedFile hfile htag hrepeat => exact .repeatedFile hfile htag (hmem hrepeat)

/-- The first pair is at fault, or the first fault is below it. -/
theorem entriesAfter_cons_eq_error_iff :
    entriesAfter seen ((file, tag) :: pairs) = .error fault
      ↔ Faulty seen file tag fault
        ∨ pairFault? seen file tag = none ∧ entriesAfter (file :: seen) pairs = .error fault := by
  rw [← pairFault?_eq_some_iff, entriesAfter]
  cases pairFault? seen file tag with
  | some found =>
      simp only [Except.error.injEq, Option.some.injEq, reduceCtorEq, false_and, or_false]
  | none =>
      cases entriesAfter (file :: seen) pairs with
      | error found => simp only [Except.map, Except.error.injEq, reduceCtorEq, false_or, true_and]
      | ok es => simp only [Except.map, reduceCtorEq, and_false, or_false]

theorem entriesAfter_eq_error_iff :
    entriesAfter seen pairs = .error fault
      ↔ ∃ before file tag after, pairs = before ++ (file, tag) :: after
        ∧ (∃ es, entriesAfter seen before = .ok es)
        ∧ Faulty (before.map Prod.fst ++ seen) file tag fault := by
  induction pairs generalizing seen with
  | nil =>
      refine iff_of_false (fun h => nomatch h) ?_
      rintro ⟨before, file, tag, after, hnil, -⟩
      exact List.append_ne_nil_of_right_ne_nil before (List.cons_ne_nil _ _) hnil.symm
  | cons p ps ih =>
      obtain ⟨file, tag⟩ := p
      rw [entriesAfter_cons_eq_error_iff, ih]
      constructor
      · rintro (hfaulty | ⟨hnone, before, file', tag', after, rfl, ⟨es, hes⟩, hfaulty⟩)
        · exact ⟨[], file, tag, ps, rfl, ⟨[], rfl⟩, hfaulty⟩
        · refine ⟨(file, tag) :: before, file', tag', after, rfl,
            ⟨_, entriesAfter_cons_eq_ok_iff.2 ⟨hnone, es, hes, rfl⟩⟩, hfaulty.congr ?_⟩
          exact fun h => List.perm_middle.mem_iff.1 h
      · rintro ⟨before, file', tag', after, hpairs, ⟨es, hes⟩, hfaulty⟩
        rcases List.cons_eq_append_iff.1 hpairs with ⟨rfl, hpair⟩ | ⟨before', rfl, rfl⟩
        · cases hpair
          exact Or.inl hfaulty
        · rcases entriesAfter_cons_eq_ok_iff.1 hes with ⟨hnone, rest, hrest, -⟩
          exact Or.inr ⟨hnone, before', file', tag', after, rfl, ⟨rest, hrest⟩,
            hfaulty.congr fun h => List.perm_middle.mem_iff.2 h⟩

/-- The first pair at fault is blamed. -/
theorem ofPairs_eq_error_iff :
    ofPairs pairs = .error fault ↔ ∃ before file tag, FirstFault pairs before file tag fault := by
  have hsound : ∀ before, (∃ es, entriesAfter [] before = .ok es) ↔ (listing before).Valid := by
    intro before
    rw [valid_listing_iff]
    simp only [entriesAfter_eq_ok_iff, List.not_mem_nil, not_false_eq_true, implies_true, and_true,
      exists_eq_left]
  have herror : ofPairs pairs = .error fault ↔ entriesAfter [] pairs = .error fault := by
    rw [ofPairs]
    cases entriesAfter [] pairs with
    | error found => simp only [Except.map, Except.error.injEq]
    | ok es => simp only [Except.map, reduceCtorEq]
  rw [herror, entriesAfter_eq_error_iff]
  constructor
  · rintro ⟨before, file, tag, after, hpairs, hes, hfaulty⟩
    rw [List.append_nil] at hfaulty
    exact ⟨before, file, tag, ⟨after, hpairs⟩, (hsound before).1 hes, hfaulty⟩
  · rintro ⟨before, file, tag, ⟨after, hpairs⟩, hvalid, hfaulty⟩
    refine ⟨before, file, tag, after, hpairs, (hsound before).2 hvalid, ?_⟩
    rwa [List.append_nil]

/-- The message names the file of the pair, unless that has a blank name. -/
theorem Faulty.message (h : Faulty above file tag fault) :
    (file.trimmed = [] → fault.toFault.message = "Catalog Error: empty file name".toList)
    ∧ (file.trimmed ≠ [] → file <:+: fault.toFault.message) := by
  cases h with
  | blankFile hfile => exact ⟨fun _ => rfl, fun hne => absurd hfile hne⟩
  | blankTag hfile htag =>
      exact ⟨fun hblank => absurd hblank hfile, fun _ =>
        List.infix_append_of_infix_right (List.infix_append _ file _)⟩
  | repeatedFile hfile htag hrepeat =>
      exact ⟨fun hblank => absurd hblank hfile, fun _ =>
        List.infix_append_of_infix_right (List.infix_append _ file _)⟩

theorem valid_of_ofYaml {text : Text} {c : Catalog} (h : ofYaml text = .ok c) : c.Valid := by
  rcases ofYaml_eq_ok_iff.1 h with ⟨pairs, -, hpairs⟩
  exact (ofPairs_eq_ok_iff_valid.1 hpairs).2

/-- A catalog that is loaded from any disk is valid. -/
theorem valid_of_loadCatalog {σ : Type} {disk : Disk (StateM σ)} {path : Text} {s : σ}
    {c : Catalog} (h : (loadCatalog disk path s).1 = .ok c) : c.Valid := by
  simp only [loadCatalog, bind, StateT.bind] at h
  rcases hread : disk.read path s with ⟨reason | text, s₁⟩
  · rw [hread] at h
    cases h
  · rw [hread] at h
    exact valid_of_ofYaml h

end

/-- Pairs are accepted exactly if they make a valid catalog, which then lists them as they
    are. If not, the first pair at fault is blamed, and its file is named unless the name is
    blank. So all catalogs that are handed out are valid. -/
theorem ofPairs_blames_first (pairs : List (Text × Text)) :
    (∀ c, ofPairs pairs = .ok c ↔ c = listing pairs ∧ c.Valid)
    ∧ (∀ fault, ofPairs pairs = .error fault
      ↔ ∃ before file tag, FirstFault pairs before file tag fault)
    ∧ (∀ before file tag fault, FirstFault pairs before file tag fault →
      (file.trimmed = [] → fault.toFault.message = "Catalog Error: empty file name".toList)
      ∧ (file.trimmed ≠ [] → file <:+: fault.toFault.message))
    ∧ (∀ text c, ofYaml text = .ok c → c.Valid)
    ∧ ∀ (σ : Type) (disk : Disk (StateM σ)) path s c,
      (loadCatalog disk path s).1 = .ok c → c.Valid :=
  ⟨fun _ => ofPairs_eq_ok_iff_valid, fun _ => ofPairs_eq_error_iff,
    fun _ _ _ _ h => h.faulty.message, fun _ _ => valid_of_ofYaml,
    fun _ _ _ _ _ => valid_of_loadCatalog⟩

/-- The file of the second pair is a tabulator, and the message does not show it. -/
theorem blank_name_unnamed :
    FirstFault [("A.tsx".toList, "a".toList), (['\t'], "b".toList)]
      [("A.tsx".toList, "a".toList)] ['\t'] "b".toList .blankFile
    ∧ ofPairs [("A.tsx".toList, "a".toList), (['\t'], "b".toList)] = .error .blankFile
    ∧ ¬ ['\t'] <:+: CatalogFault.blankFile.toFault.message := by
  have hvalid : (listing [("A.tsx".toList, "a".toList)]).Valid :=
    valid_listing_iff.2 ⟨by decide, by decide⟩
  exact ⟨⟨⟨[], rfl⟩, hvalid, .blankFile rfl⟩, rfl,
    fun h => absurd (Text.mentions_iff.2 h) (by decide)⟩

end Catalog

end HelpWiring
