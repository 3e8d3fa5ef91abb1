import HelpWiring.Text.Lines

/-!
# Octets

How long a text is in UTF-8. Offsets into a page and the limits on paths are
counted in octets, all else in characters.

## Main definitions

* `octets`: The length of a text in UTF-8.

## Theorems

* `octets_append`: Lengths add up.
-/

namespace HelpWiring

/-- The length of a text in octets of UTF-8. -/
def octets : Text → Nat
  | [] => 0
  | c :: rest => c.utf8Size + octets rest

theorem octets_append (a b : Text) : octets (a ++ b) = octets a + octets b := by
  induction a with
  | nil => rw [List.nil_append, octets, Nat.zero_add]
  | cons c r ih => rw [List.cons_append, octets, octets, ih, Nat.add_assoc]

end HelpWiring
