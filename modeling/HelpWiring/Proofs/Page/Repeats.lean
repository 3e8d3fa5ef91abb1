import HelpWiring.Proofs.Page.Cleaning
import Mathlib.Data.List.Induction

/-!
# Which Lines Go

Cleaning is a pass over the lines of a page with two flags. What it comes to can
be said without the flags, by the places of the lines that stay. A line goes if
it mentions the hook's import and some line above it does too, or if it mentions
the popup's import and some line above it does too that has stayed. All other
lines stay, in their order, so a line without an import is never lost, however
often the same line comes.

The pass is followed from the top. One more line at the end changes nothing for
the lines above it, and it finds the flags as these have left them: that of the
hook is up if one of them mentions the hook's import, and that of the popup if
one of them that stayed mentions the popup's.

Of the lines that stay, one at most mentions each import. So there is nothing
left to clean, and a page that is cleaned again stays as it is.

## Main definitions

* `Repeated`: A line mentions an import that a line above it has brought.
* `Remaining`: The places of the lines that stay.

## Theorems

* `repeated_append`: What is further down does not matter to a line.
* `exists_remaining`: Which lines stay.
* `countP_keepFirst_le`: Each import is on one line at most of those that stay.
* `clean_drops_repeats`: Cleaning removes what is repeated and nothing else.
* `clean_clean`: A page is cleaned once.
-/

namespace HelpWiring

/-- The line at place `j` mentions an import that is there already: the hook's on any line
    above it, or the popup's on one that stays. -/
def Repeated (ls : List Text) (places : List Nat) (j : Nat) (line : Text) : Prop :=
  (line.mentions hookImport = true
    ∧ ∃ i above, i < j ∧ ls[i]? = some above ∧ above.mentions hookImport = true)
  ∨ (line.mentions popupImport = true
    ∧ ∃ i above, i < j ∧ i ∈ places ∧ ls[i]? = some above ∧ above.mentions popupImport = true)

/-- The places of the lines that stay. -/
structure Remaining (ls kept : List Text) (places : List Nat) : Prop where
  /-- They are in order, so no place comes twice. -/
  ordered : places.Pairwise (· < ·)
  /-- The lines at these places are the ones that stay. -/
  lines : places.map (ls[·]?) = kept.map some
  /-- A line goes exactly if it is repeated. -/
  gone : ∀ j line, ls[j]? = some line → (j ∉ places ↔ Repeated ls places j line)

section

variable {ls kept : List Text} {places : List Nat}

/-- A line without an import stays. -/
theorem Remaining.mem_of_plain (h : Remaining ls kept places) {j : Nat} {line : Text}
    (hj : ls[j]? = some line) (hhook : line.mentions hookImport = false)
    (hpopup : line.mentions popupImport = false) : j ∈ places := by
  by_contra hgone
  rcases (h.gone j line hj).1 hgone with ⟨hmentions, -⟩ | ⟨hmentions, -⟩
  · rw [hhook] at hmentions
    exact Bool.false_ne_true hmentions
  · rw [hpopup] at hmentions
    exact Bool.false_ne_true hmentions

/-- The lines that stay are those at their places. -/
theorem Remaining.mem_iff (h : Remaining ls kept places) {line : Text} :
    line ∈ kept ↔ ∃ i ∈ places, ls[i]? = some line := by
  have hsome : line ∈ kept ↔ some line ∈ kept.map some := by
    simp only [List.mem_map, Option.some.injEq, exists_eq_right]
  rw [hsome, ← h.lines, List.mem_map]

theorem Remaining.lt_length (h : Remaining ls kept places) {i : Nat} (hi : i ∈ places) :
    i < ls.length := by
  have hline : ls[i]? ∈ kept.map some := h.lines ▸ List.mem_map_of_mem hi
  rcases List.mem_map.1 hline with ⟨line, -, hline⟩
  exact (List.getElem?_eq_some_iff.1 hline.symm).1

/-- Whether a line is repeated is settled by the lines above it. -/
theorem repeated_append {more : List Text} {tail : List Nat} {j : Nat} {line : Text}
    (hj : j ≤ ls.length) (htail : ∀ i ∈ tail, ls.length ≤ i) :
    Repeated (ls ++ more) (places ++ tail) j line ↔ Repeated ls places j line := by
  have hget : ∀ i, i < j → (ls ++ more)[i]? = ls[i]? := fun i hi =>
    List.getElem?_append_left (by omega)
  have hplaces : ∀ i, i < j → (i ∈ places ++ tail ↔ i ∈ places) := by
    intro i hi
    rw [List.mem_append, or_iff_left]
    intro hmem
    have hle := htail i hmem
    omega
  refine or_congr (and_congr_right fun _ => ?_) (and_congr_right fun _ => ?_)
  · refine exists_congr fun i => exists_congr fun above => and_congr_right fun hi => ?_
    rw [hget i hi]
  · refine exists_congr fun i => exists_congr fun above => and_congr_right fun hi => ?_
    rw [hget i hi, hplaces i hi]

/-- A line at the end is repeated if it finds the flag of one of its imports up. -/
theorem Remaining.repeated_iff (h : Remaining ls kept places) (line : Text) :
    Repeated ls places ls.length line
      ↔ (line.mentions hookImport && ls.any (·.mentions hookImport)
        || line.mentions popupImport && kept.any (·.mentions popupImport)) = true := by
  have hhook : (∃ i above, i < ls.length ∧ ls[i]? = some above
        ∧ above.mentions hookImport = true) ↔ ls.any (·.mentions hookImport) = true := by
    rw [List.any_eq_true]
    constructor
    · rintro ⟨i, above, -, hi, hmentions⟩
      exact ⟨above, List.mem_of_getElem? hi, hmentions⟩
    · rintro ⟨above, habove, hmentions⟩
      rcases List.mem_iff_getElem?.1 habove with ⟨i, hi⟩
      exact ⟨i, above, (List.getElem?_eq_some_iff.1 hi).1, hi, hmentions⟩
  have hpopup : (∃ i above, i < ls.length ∧ i ∈ places ∧ ls[i]? = some above
        ∧ above.mentions popupImport = true) ↔ kept.any (·.mentions popupImport) = true := by
    rw [List.any_eq_true]
    constructor
    · rintro ⟨i, above, -, hplace, hi, hmentions⟩
      exact ⟨above, h.mem_iff.2 ⟨i, hplace, hi⟩, hmentions⟩
    · rintro ⟨above, habove, hmentions⟩
      rcases h.mem_iff.1 habove with ⟨i, hplace, hi⟩
      exact ⟨i, above, h.lt_length hplace, hplace, hi, hmentions⟩
  rw [Repeated, hhook, hpopup, Bool.or_eq_true, Bool.and_eq_true, Bool.and_eq_true]

/-- One more line at the end, which goes or stays. -/
theorem Remaining.concat (h : Remaining ls kept places) {line : Text} {stays : List Text}
    {tail : List Nat} (htail : tail = [] ∧ stays = [] ∨ tail = [ls.length] ∧ stays = [line])
    (hgone : tail = [] ↔ Repeated ls places ls.length line) :
    Remaining (ls ++ [line]) (kept ++ stays) (places ++ tail) := by
  have hend : ∀ i ∈ tail, i = ls.length := by
    rcases htail with ⟨rfl, -⟩ | ⟨rfl, -⟩
    · exact fun i hi => absurd hi List.not_mem_nil
    · exact fun i hi => List.mem_singleton.1 hi
  have habove : places.map ((ls ++ [line])[·]?) = places.map (ls[·]?) :=
    List.map_congr_left fun i hi => List.getElem?_append_left (h.lt_length hi)
  refine ⟨?_, ?_, fun j l hj => ?_⟩
  · -- the new place is behind all others
    refine List.pairwise_append.2 ⟨h.ordered, ?_, fun i hi k hk => hend k hk ▸ h.lt_length hi⟩
    rcases htail with ⟨rfl, -⟩ | ⟨rfl, -⟩
    · exact List.Pairwise.nil
    · exact List.pairwise_singleton _ _
  · rw [List.map_append, List.map_append, habove, h.lines]
    rcases htail with ⟨rfl, rfl⟩ | ⟨rfl, rfl⟩
    · rfl
    · rw [List.map_singleton, List.map_singleton, List.getElem?_concat_length]
  · have hlt : j < ls.length + 1 := by
      have hlength := (List.getElem?_eq_some_iff.1 hj).1
      rwa [List.length_append, List.length_singleton] at hlength
    rw [repeated_append (Nat.le_of_lt_succ hlt) fun i hi => Nat.le_of_eq (hend i hi).symm,
      List.mem_append, not_or]
    by_cases hlast : j = ls.length
    · -- the new line is where the others end
      subst hlast
      rw [List.getElem?_concat_length, Option.some.injEq] at hj
      subst hj
      have hnew : ls.length ∉ places := fun hmem => Nat.lt_irrefl _ (h.lt_length hmem)
      rw [and_iff_right hnew, ← hgone]
      rcases htail with ⟨rfl, -⟩ | ⟨rfl, -⟩
      · exact iff_of_true List.not_mem_nil rfl
      · exact iff_of_false (fun hno => hno List.mem_cons_self) (List.cons_ne_nil _ _)
    · have hj' : ls[j]? = some l := by
        rwa [List.getElem?_append_left (by omega)] at hj
      rw [and_iff_left fun hmem => hlast (hend j hmem), h.gone j l hj']

end

/-- The lines that stay have their places, and a line goes exactly if it is repeated. -/
theorem exists_remaining (ls : List Text) :
    ∃ places, Remaining ls (keepFirst false false ls) places := by
  -- on the lines from the top, as a line is kept or not by what is above it
  induction ls using List.reverseRecOn with
  | nil => exact ⟨[], List.Pairwise.nil, rfl, fun j line hj => nomatch hj⟩
  | append_singleton ls line ih =>
      rcases ih with ⟨places, h⟩
      have hlast := h.repeated_iff line
      rw [keepFirst_append, Bool.false_or, Bool.false_or, keepFirst_cons, keepFirst, keepFirst]
      split
      · rename_i hgoes
        exact ⟨places ++ [], h.concat (Or.inl ⟨rfl, rfl⟩) (iff_of_true rfl (hlast.2 hgoes))⟩
      · rename_i hstays
        exact ⟨places ++ [ls.length], h.concat (Or.inr ⟨rfl, rfl⟩)
          (iff_of_false (List.cons_ne_nil _ _) (mt hlast.1 hstays))⟩

/-- Of the lines that stay, one at most mentions each import, and none if it was seen
    before. -/
theorem countP_keepFirst_le (seenHook seenPopup : Bool) (ls : List Text) :
    seenHook.toNat + (keepFirst seenHook seenPopup ls).countP (·.mentions hookImport) ≤ 1
    ∧ seenPopup.toNat + (keepFirst seenHook seenPopup ls).countP (·.mentions popupImport) ≤ 1 := by
  induction ls generalizing seenHook seenPopup with
  | nil => exact ⟨seenHook.toNat_le, seenPopup.toNat_le⟩
  | cons line more ih =>
      rw [keepFirst_cons]
      split
      · -- the flag of the hook may have gone up, and that leaves room for less
        rcases ih (seenHook || line.mentions hookImport) seenPopup with ⟨hhook, hpopup⟩
        have hflag : seenHook.toNat ≤ (seenHook || line.mentions hookImport).toNat := by
          cases seenHook <;> cases line.mentions hookImport <;> decide
        exact ⟨by omega, hpopup⟩
      · rename_i hstays
        rw [Bool.not_eq_true, Bool.or_eq_false_iff] at hstays
        rw [← toNat_seen_add_countP hstays.1, ← toNat_seen_add_countP hstays.2]
        exact ih _ _

namespace Page

theorem importCount_clean_le (page : Text) :
    importCount (clean page) hookImport ≤ 1 ∧ importCount (clean page) popupImport ≤ 1 := by
  have hcounts := countP_keepFirst_le false false page.lines
  rw [Bool.toNat_false, Nat.zero_add, Nat.zero_add, ← lines_clean] at hcounts
  exact hcounts

/-- Cleaning again finds nothing to do. -/
theorem clean_clean (page : Text) : clean (clean page) = clean page :=
  (clean_eq_self_iff (clean page)).2 (importCount_clean_le page)

/-- The lines of a cleaned page are those of the page less the ones that are repeated. Those
    without an import are all among them, each import is on one of them at most, and a page
    that has each import on one line at most is left alone. -/
theorem clean_drops_repeats (page : Text) :
    (∃ places, Remaining page.lines (clean page).lines places
      ∧ ∀ j line, page.lines[j]? = some line → line.mentions hookImport = false →
        line.mentions popupImport = false → j ∈ places)
    ∧ (importCount (clean page) hookImport ≤ 1 ∧ importCount (clean page) popupImport ≤ 1)
    ∧ (clean page = page ↔ importCount page hookImport ≤ 1 ∧ importCount page popupImport ≤ 1) := by
  rcases exists_remaining page.lines with ⟨places, h⟩
  rw [← lines_clean] at h
  exact ⟨⟨places, h, fun j line hj hhook hpopup => h.mem_of_plain hj hhook hpopup⟩,
    importCount_clean_le page, clean_eq_self_iff page⟩

end Page

end HelpWiring
