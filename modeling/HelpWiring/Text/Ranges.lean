/-!
# Character Ranges

A class of characters that no formula describes is a table of code point
ranges. The tables are written in rising order, so a look-up reads only as far
as the first range that starts above the character: for the characters of
ordinary source code that is a handful of comparisons, whatever the size of
the table.

What a look-up finds is in one of the ranges. `exists_range_of_holds` says so
for any table, in whatever order it is.

## Main definitions

* `Ranges`: Code point ranges, each given by its first and last member.
* `Ranges.holds`: Look-up in a table.

## Theorems

* `exists_range_of_holds`: A character that is found lies in some range.
-/

namespace HelpWiring

namespace Text

/-- Code point ranges, each given by its first and last member. -/
abbrev Ranges := List (Nat × Nat)

namespace Ranges

/-- Whether a character lies in a range, reading no further than the first
    range above it. -/
def holds (c : Char) : Ranges → Bool
  | [] => false
  | (first, last) :: more =>
      decide (first ≤ c.toNat) && (decide (c.toNat ≤ last) || holds c more)

theorem exists_range_of_holds {table : Ranges} {c : Char} (h : holds c table = true) :
    ∃ r ∈ table, r.1 ≤ c.toNat ∧ c.toNat ≤ r.2 := by
  induction table with
  | nil => exact absurd h Bool.false_ne_true
  | cons r rs ih =>
      simp only [holds, Bool.and_eq_true, Bool.or_eq_true, decide_eq_true_eq] at h
      rcases h with ⟨hlow, hhigh | hmore⟩
      · exact ⟨r, List.mem_cons_self, hlow, hhigh⟩
      · rcases ih hmore with ⟨s, hs, hc⟩
        exact ⟨s, List.mem_cons_of_mem r hs, hc⟩

end Ranges

end Text

end HelpWiring
