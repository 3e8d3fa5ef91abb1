import HelpWiring.Proofs.Catalog.Pairs
import Mathlib.Data.List.Induction
import Mathlib.Data.List.Nodup

/-!
# A File Listed Twice in a Catalog File

The pairs of a catalog file do not reach the catalog as they are written. They
are first put into a mapping, and a mapping has each key once: a key that comes
again keeps its first place and takes the last value. So what the catalog is
made of has no repeats, whatever the file says, and the check for a file that is
listed twice cannot find any.

`ofYaml_merges` says what a catalog file is read as, and that this differs from
what its pairs would make exactly if some file is listed twice. Pairs that come
from elsewhere are refused then. Pairs from a catalog file are not: the tags in
front of the last one are lost without a word.

## Main definitions

* `Merges`: A catalog that has the files of some pairs once, with their last tags.

## Theorems

* `keys_ofPairs`: The keys of a mapping.
* `lookup_ofPairs`: The values of a mapping.
* `ofYaml_of_pairs`: A catalog file without blanks makes a catalog.
* `ofYaml_merges`: What a catalog file is read as.
* `repeat_accepted`: A catalog file that lists a file twice.
-/

namespace HelpWiring

namespace Yaml

theorem ofPairs_concat (pairs : List (Text × Text)) (p : Text × Text) :
    ofPairs (pairs ++ [p]) = update (ofPairs pairs) p.1 p.2 := by
  rw [ofPairs, List.foldl_concat]
  rfl

/-- A mapping has the keys of its pairs, each at its first place. -/
theorem keys_ofPairs (pairs : List (Text × Text)) :
    (ofPairs pairs).map Prod.fst = (pairs.map Prod.fst).eraseDups := by
  induction pairs using List.reverseRecOn with
  | nil => rfl
  | append_singleton pairs p ih =>
      rw [ofPairs_concat, update_keys, ih, List.map_append, List.map_singleton,
        List.eraseDups_append]
      by_cases h : p.1 ∈ pairs.map Prod.fst
      · -- nothing is left of a key that is known
        have hknown : [p.1].removeAll (pairs.map Prod.fst) = [] :=
          List.filter_eq_nil_iff.2 fun k hk => by simpa [List.mem_singleton.1 hk] using h
        rw [if_pos (List.mem_eraseDups.2 h), hknown, List.eraseDups_nil, List.append_nil]
      · have hnew : [p.1].removeAll (pairs.map Prod.fst) = [p.1] :=
          List.filter_eq_self.2 fun k hk => by simpa [List.mem_singleton.1 hk] using h
        rw [if_neg fun hk => h (List.mem_eraseDups.1 hk), hnew]
        rfl

theorem lookup_update (m : List (Text × Text)) (k v other : Text) :
    (update m k v).lookup other = if other = k then some v else m.lookup other := by
  induction m with
  | nil =>
      by_cases h : other = k
      · simp only [update, List.lookup_cons, h, beq_self_eq_true, if_true]
      · simp only [update, List.lookup_cons, beq_false_of_ne h, if_neg h]
  | cons p m ih =>
      obtain ⟨k', v'⟩ := p
      by_cases hk : k' = k
      · subst hk
        rw [update, if_pos rfl]
        by_cases h : other = k'
        · simp only [List.lookup_cons, h, beq_self_eq_true, if_true]
        · simp only [List.lookup_cons, beq_false_of_ne h, if_neg h]
      · rw [update, if_neg hk]
        by_cases h : other = k'
        · simp only [List.lookup_cons, h, beq_self_eq_true, if_neg hk]
        · simp only [List.lookup_cons, beq_false_of_ne h, ih]

/-- A mapping has the last value of each key. -/
theorem lookup_ofPairs (pairs : List (Text × Text)) (k : Text) :
    (ofPairs pairs).lookup k = pairs.reverse.lookup k := by
  induction pairs using List.reverseRecOn with
  | nil => rfl
  | append_singleton pairs p ih =>
      rw [ofPairs_concat, lookup_update, ih, List.reverse_append, List.reverse_singleton,
        List.singleton_append, List.lookup_cons]
      by_cases h : k = p.1
      · simp only [h, beq_self_eq_true, if_true]
      · simp only [beq_false_of_ne h, if_neg h]

theorem nodup_keys_ofPairs (pairs : List (Text × Text)) :
    ((ofPairs pairs).map Prod.fst).Nodup := by
  induction pairs using List.reverseRecOn with
  | nil => exact List.nodup_nil
  | append_singleton pairs p ih =>
      rw [ofPairs_concat, update_keys]
      by_cases h : p.1 ∈ (ofPairs pairs).map Prod.fst
      · rwa [if_pos h]
      · rw [if_neg h, ← List.concat_eq_append]
        exact ih.concat h

theorem update_of_notMem {m : List (Text × Text)} {k : Text} (h : k ∉ m.map Prod.fst) (v : Text) :
    update m k v = m ++ [(k, v)] := by
  induction m with
  | nil => rfl
  | cons p m ih =>
      rw [List.map_cons, List.mem_cons, not_or] at h
      rw [update, if_neg (Ne.symm h.1), ih h.2, List.cons_append]

/-- Pairs without a repeat are a mapping. -/
theorem ofPairs_of_nodup {pairs : List (Text × Text)} (h : (pairs.map Prod.fst).Nodup) :
    ofPairs pairs = pairs := by
  induction pairs using List.reverseRecOn with
  | nil => rfl
  | append_singleton pairs p ih =>
      rw [List.map_append, List.map_singleton, ← List.concat_eq_append, List.nodup_concat] at h
      rcases h with ⟨hnew, hpairs⟩
      rw [ofPairs_concat, ih hpairs, update_of_notMem hnew]

theorem mem_of_mem_update {m : List (Text × Text)} {k v : Text} {p : Text × Text}
    (h : p ∈ update m k v) : p = (k, v) ∨ p ∈ m := by
  induction m with
  | nil => exact Or.inl (List.mem_singleton.1 h)
  | cons q m ih =>
      obtain ⟨k', v'⟩ := q
      by_cases hk : k' = k
      · rw [update, if_pos hk] at h
        exact (List.mem_cons.1 h).imp_right (List.mem_cons_of_mem _)
      · rw [update, if_neg hk] at h
        rcases List.mem_cons.1 h with rfl | h
        · exact Or.inr List.mem_cons_self
        · exact (ih h).imp_right (List.mem_cons_of_mem _)

/-- A mapping has no pair that was not written. -/
theorem mem_of_mem_ofPairs {pairs : List (Text × Text)} {p : Text × Text}
    (h : p ∈ ofPairs pairs) : p ∈ pairs := by
  induction pairs using List.reverseRecOn with
  | nil => exact h
  | append_singleton pairs q ih =>
      rw [ofPairs_concat] at h
      rcases mem_of_mem_update h with rfl | h
      · exact List.mem_append_right pairs List.mem_cons_self
      · exact List.mem_append_left [q] (ih h)

/-- The tag of an entry is the one that its mapping gives to its file. -/
theorem lookup_of_mem {m : List (Text × Text)} (hnodup : (m.map Prod.fst).Nodup) {p : Text × Text}
    (hp : p ∈ m) : m.lookup p.1 = some p.2 := by
  induction m with
  | nil => exact absurd hp List.not_mem_nil
  | cons q m ih =>
      rw [List.map_cons, List.nodup_cons] at hnodup
      rcases List.mem_cons.1 hp with rfl | hp
      · rw [List.lookup_cons, beq_self_eq_true]
      · have hne : p.1 ≠ q.1 := fun h => hnodup.1 (h ▸ List.mem_map_of_mem hp)
        rw [List.lookup_cons, beq_false_of_ne hne]
        exact ih hnodup.2 hp

end Yaml

namespace Catalog

/-- A catalog that has each file of some pairs once, in the order of their first places,
    and with the last tag that they give it. -/
structure Merges (pairs : List (Text × Text)) (c : Catalog) : Prop where
  files : c.entries.map Entry.file = (pairs.map Prod.fst).eraseDups
  tags : ∀ e ∈ c.entries, pairs.reverse.lookup e.file = some e.tag

theorem Merges.of_ofPairs {pairs : List (Text × Text)} {c : Catalog}
    (h : ofPairs (Yaml.ofPairs pairs) = .ok c) : Merges pairs c := by
  rcases ofPairs_eq_ok_iff.1 h with ⟨rfl, -, hnodup⟩
  constructor
  · rw [List.map_map]
    exact Yaml.keys_ofPairs pairs
  · intro e he
    rcases List.mem_map.1 he with ⟨p, hp, rfl⟩
    rw [← Yaml.lookup_ofPairs]
    exact Yaml.lookup_of_mem hnodup hp

theorem ofYaml_eq {text : Text} {pairs : List (Text × Text)} (h : Yaml.pairs? text = some pairs) :
    ofYaml text = (ofPairs (Yaml.ofPairs pairs)).mapError CatalogFault.toFault := by
  rw [ofYaml, Yaml.mapping?, h]
  rfl

/-- Pairs without blanks from a catalog file make a catalog, whatever is repeated. -/
theorem ofYaml_of_pairs {text : Text} {pairs : List (Text × Text)}
    (h : Yaml.pairs? text = some pairs) (hblank : NoBlanks pairs) :
    ∃ c, ofYaml text = .ok c ∧ ofPairs (Yaml.ofPairs pairs) = .ok c := by
  have hmap : ofPairs (Yaml.ofPairs pairs)
      = .ok ⟨(Yaml.ofPairs pairs).map fun p => ⟨p.1, p.2⟩⟩ :=
    ofPairs_eq_ok_iff.2 ⟨rfl, fun p hp => hblank p (Yaml.mem_of_mem_ofPairs hp),
      Yaml.nodup_keys_ofPairs pairs⟩
  exact ⟨_, by rw [ofYaml_eq h, hmap]; rfl, hmap⟩

/-- What a catalog file without blanks is read as. It is what its pairs would make if no
    file is listed twice. If one is, the pairs would be refused, and the file is not. -/
theorem ofYaml_merges {text : Text} {pairs : List (Text × Text)}
    (h : Yaml.pairs? text = some pairs) (hblank : NoBlanks pairs) :
    (∃ c, ofYaml text = .ok c ∧ Merges pairs c)
    ∧ (ofYaml text = (ofPairs pairs).mapError CatalogFault.toFault
      ↔ (pairs.map Prod.fst).Nodup)
    ∧ ((∃ file ∈ pairs.map Prod.fst, ofPairs pairs = .error (.repeatedFile file))
      ↔ ¬ (pairs.map Prod.fst).Nodup) := by
  rcases ofYaml_of_pairs h hblank with ⟨c, hc, hmap⟩
  refine ⟨⟨c, hc, Merges.of_ofPairs hmap⟩, ?_⟩
  by_cases hnodup : (pairs.map Prod.fst).Nodup
  · have hpairs : ofPairs pairs = .ok c := by rwa [← Yaml.ofPairs_of_nodup hnodup]
    refine ⟨iff_of_true (by rw [hc, hpairs]; rfl) hnodup, iff_of_false ?_ (not_not_intro hnodup)⟩
    rintro ⟨file, -, herror⟩
    rw [hpairs] at herror
    cases herror
  · -- a repeat keeps the pairs from making a catalog, and nothing else is wrong with them
    rcases ofPairs_of_noBlanks hblank with ⟨d, hd⟩ | ⟨file, hfile, herror⟩
    · exact absurd (ofPairs_eq_ok_iff.1 hd).2.2 hnodup
    · refine ⟨iff_of_false ?_ hnodup, iff_of_true ⟨file, hfile, herror⟩ hnodup⟩
      rw [hc, herror]
      exact fun hsame => nomatch hsame

/-- Three lines that list a file twice, with a file in between. -/
def threeLines : Text := "A.tsx: a\nB.tsx: b\nA.tsx: c\n".toList

/-- The pairs that they hold. -/
def threePairs : List (Text × Text) :=
  [("A.tsx".toList, "a".toList), ("B.tsx".toList, "b".toList), ("A.tsx".toList, "c".toList)]

theorem ofYaml_merges_three : Yaml.pairs? threeLines = some threePairs ∧ NoBlanks threePairs
    ∧ (∃ c, ofYaml threeLines = .ok c ∧ Merges threePairs c)
    ∧ (ofYaml threeLines = (ofPairs threePairs).mapError CatalogFault.toFault
      ↔ (threePairs.map Prod.fst).Nodup)
    ∧ ((∃ file ∈ threePairs.map Prod.fst, ofPairs threePairs = .error (.repeatedFile file))
      ↔ ¬ (threePairs.map Prod.fst).Nodup) :=
  ⟨by decide +kernel, by decide +kernel, ofYaml_merges (by decide +kernel) (by decide +kernel)⟩

/-- The pairs of these lines are refused because a file is listed twice, but the lines
    are not: the file gets its second tag, and the first one is lost. -/
theorem repeat_accepted : Yaml.pairs? threeLines = some threePairs ∧ NoBlanks threePairs
    ∧ ofPairs threePairs = .error (.repeatedFile "A.tsx".toList)
    ∧ ofYaml threeLines ≠ .error (CatalogFault.repeatedFile "A.tsx".toList).toFault
    ∧ ofYaml threeLines
      = .ok ⟨[⟨"A.tsx".toList, "c".toList⟩, ⟨"B.tsx".toList, "b".toList⟩]⟩ := by
  decide +kernel

end Catalog

end HelpWiring
