import HelpWiring.Proofs.Text.Rows
import Mathlib.Order.Bounds.Defs

/-!
# Places in a Text

A place parts a text into what is in front of it and what is behind it. Nothing
else is said of places here than by these two parts: a search stops at a place
if its test holds of the part behind it, and of no longer end of the text.

Places can be counted, in characters or in octets, and of two places in one text
the one with the smaller count comes first. So the place where a search stops is
the least of all those where it could. Characters take one to four octets, and a
count of octets that ends inside a character is no place at all. `OnEdge` takes
that from the UTF-8 form of the text, and `onEdge_iff` says it by parts.

## Main definitions

* `Text.FirstPlace`: The first place with a test passed behind it.
* `Text.OnEdge`: Whether a text can be cut after some octets.

## Theorems

* `exists_firstPlace`: If a test is passed somewhere, there is a first place.
* `firstPlace_cons_iff`, `exists_firstPlace_cons_iff`: First places behind one more
  character.
* `FirstPlace.prefix_of_eq`: The first place comes before every other one.
* `firstPlace_iff_length_le`, `isLeast_octets_iff`: It has the least count.
* `onEdge_iff`: The places of a text, counted in octets.
* `onEdge_cons_iff`: The places of a text with one more character.
-/

namespace HelpWiring

namespace Text

/-- The test holds of `b` and of nothing that begins further to the front in `a ++ b`. -/
def FirstPlace (test : Text → Bool) (a b : Text) : Prop :=
  test b = true ∧ ∀ s, s ≠ [] → s <:+ a → test (s ++ b) = false

section

variable {test : Text → Bool}

theorem firstPlace_nil_iff {b : Text} : FirstPlace test [] b ↔ test b = true :=
  ⟨fun h => h.1, fun h => ⟨h, fun _ hne hs => absurd (List.suffix_nil.1 hs) hne⟩⟩

theorem firstPlace_cons_iff {c : Char} {a b : Text} :
    FirstPlace test (c :: a) b ↔ test (c :: (a ++ b)) = false ∧ FirstPlace test a b := by
  constructor
  · rintro ⟨hb, hnone⟩
    exact ⟨hnone (c :: a) (List.cons_ne_nil c a) List.suffix_rfl, hb, fun s hne hs =>
      hnone s hne (hs.trans (List.suffix_cons c a))⟩
  · rintro ⟨hhere, hb, hnone⟩
    refine ⟨hb, fun s hne hs => ?_⟩
    rcases List.suffix_cons_iff.1 hs with rfl | hs
    · exact hhere
    · exact hnone s hne hs

/-- A search that stops at the first place stops at once, or goes on behind one character. -/
theorem exists_firstPlace_cons_iff {P : Text → Prop} {c : Char} {r : Text} :
    (∃ a b, c :: r = a ++ b ∧ FirstPlace test a b ∧ P a)
      ↔ test (c :: r) = true ∧ P []
        ∨ test (c :: r) = false ∧ ∃ a b, r = a ++ b ∧ FirstPlace test a b ∧ P (c :: a) := by
  constructor
  · rintro ⟨a, b, heq, hfirst, ha⟩
    cases a with
    | nil =>
        rw [List.nil_append] at heq
        exact Or.inl ⟨heq ▸ hfirst.1, ha⟩
    | cons d a =>
        rw [List.cons_append, List.cons.injEq] at heq
        rcases heq with ⟨rfl, rfl⟩
        rcases firstPlace_cons_iff.1 hfirst with ⟨hhere, hfirst⟩
        exact Or.inr ⟨hhere, a, b, rfl, hfirst, ha⟩
  · rintro (⟨hhere, ha⟩ | ⟨hhere, a, b, rfl, hfirst, ha⟩)
    · exact ⟨[], c :: r, rfl, firstPlace_nil_iff.2 hhere, ha⟩
    · exact ⟨c :: a, b, rfl, firstPlace_cons_iff.2 ⟨hhere, hfirst⟩, ha⟩

theorem exists_firstPlace {s t : Text} (hs : s <:+ t) (h : test s = true) :
    ∃ a b, t = a ++ b ∧ FirstPlace test a b := by
  induction t with
  | nil => exact ⟨[], s, (List.suffix_nil.1 hs).symm, firstPlace_nil_iff.2 h⟩
  | cons c r ih =>
      by_cases hc : test (c :: r) = true
      · exact ⟨[], c :: r, rfl, firstPlace_nil_iff.2 hc⟩
      · rcases List.suffix_cons_iff.1 hs with rfl | hs
        · exact absurd h hc
        · rcases ih hs with ⟨a, b, rfl, hfirst⟩
          exact ⟨c :: a, b, rfl, firstPlace_cons_iff.2 ⟨Bool.eq_false_iff.2 hc, hfirst⟩⟩

variable {a b : Text}

theorem FirstPlace.prefix_of_eq (h : FirstPlace test a b) {a' b' : Text}
    (heq : a ++ b = a' ++ b') (hb' : test b' = true) : a <+: a' := by
  rcases List.append_eq_append_iff.1 heq with ⟨m, rfl, -⟩ | ⟨m, rfl, rfl⟩
  · exact List.prefix_append a m
  · cases m with
    | nil => exact ⟨[], by rw [List.append_nil, List.append_nil]⟩
    | cons c m =>
        -- the other place would be further to the front
        rw [h.2 (c :: m) (List.cons_ne_nil c m) (List.suffix_append a' _)] at hb'
        exact absurd hb' Bool.false_ne_true

/-- Of all places where the test is passed, the first one has the least count, whatever is
    counted, as long as there is something of it in every text. -/
theorem firstPlace_iff_count_le {count : Text → Nat}
    (hcount : ∀ x y, count (x ++ y) = count x + count y) (hpos : ∀ x, count x = 0 → x = []) :
    FirstPlace test a b
      ↔ test b = true ∧ ∀ a' b', a ++ b = a' ++ b' → test b' = true → count a ≤ count a' := by
  constructor
  · refine fun h => ⟨h.1, fun a' b' heq hb' => ?_⟩
    rcases h.prefix_of_eq heq hb' with ⟨m, rfl⟩
    rw [hcount]
    omega
  · rintro ⟨hb, hleast⟩
    refine ⟨hb, fun s hne hs => Bool.eq_false_iff.2 fun hpassed => ?_⟩
    rcases hs with ⟨z, rfl⟩
    have hle := hleast z (s ++ b) (List.append_assoc z s b) hpassed
    rw [hcount] at hle
    exact hne (hpos s (by omega))

theorem firstPlace_iff_length_le :
    FirstPlace test a b ↔ test b = true
      ∧ ∀ a' b', a ++ b = a' ++ b' → test b' = true → a.length ≤ a'.length :=
  firstPlace_iff_count_le (fun _ _ => List.length_append) fun _ => List.eq_nil_of_length_eq_zero

/-- The same for the octets in front. -/
theorem isLeast_octets_iff {t : Text} {n : Nat} :
    IsLeast {n | ∃ a b, t = a ++ b ∧ octets a = n ∧ test b = true} n
      ↔ ∃ a b, t = a ++ b ∧ octets a = n ∧ FirstPlace test a b := by
  have hcount : ∀ {a b}, FirstPlace test a b ↔ test b = true
      ∧ ∀ a' b', a ++ b = a' ++ b' → test b' = true → octets a ≤ octets a' :=
    firstPlace_iff_count_le octets_append fun _ => eq_nil_of_octets
  constructor
  · rintro ⟨⟨a, b, rfl, rfl, hb⟩, hleast⟩
    refine ⟨a, b, rfl, rfl, hcount.2 ⟨hb, ?_⟩⟩
    exact fun a' b' heq hb' => hleast ⟨a', b', heq, rfl, hb'⟩
  · rintro ⟨a, b, rfl, rfl, hfirst⟩
    refine ⟨⟨a, b, rfl, rfl, hfirst.1⟩, ?_⟩
    rintro n ⟨a', b', heq, rfl, hb'⟩
    exact (hcount.1 hfirst).2 a' b' heq hb'

end

theorem octets_eq_utf8ByteSize (t : Text) : octets t = (String.ofList t).utf8ByteSize := by
  induction t with
  | nil => rfl
  | cons c r ih =>
      have hsplit : String.ofList (c :: r) = String.singleton c ++ String.ofList r := by
        rw [String.singleton_eq_ofList, ← String.ofList_append, List.singleton_append]
      rw [octets, ih, hsplit, String.utf8ByteSize_append, String.utf8ByteSize_singleton]

/-- Whether a text can be cut after so many octets, that is, whether these are the UTF-8
    form of some of its characters. -/
def OnEdge (t : Text) (count : Nat) : Prop := String.Pos.Raw.IsValid (String.ofList t) ⟨count⟩

theorem onEdge_iff {t : Text} {count : Nat} :
    OnEdge t count ↔ ∃ a b, t = a ++ b ∧ octets a = count := by
  rw [OnEdge, String.Pos.Raw.isValid_ofList]
  constructor
  · rintro ⟨i, hi⟩
    refine ⟨t.take i, t.drop i, (List.take_append_drop i t).symm, ?_⟩
    rw [octets_eq_utf8ByteSize]
    exact hi.symm
  · rintro ⟨a, b, rfl, rfl⟩
    exact ⟨a.length, by rw [List.take_left, octets_eq_utf8ByteSize]⟩

theorem OnEdge.le_octets {t : Text} {count : Nat} (h : OnEdge t count) : count ≤ octets t := by
  rcases onEdge_iff.1 h with ⟨a, b, rfl, rfl⟩
  rw [octets_append]
  omega

theorem onEdge_zero (t : Text) : OnEdge t 0 := onEdge_iff.2 ⟨[], t, rfl, rfl⟩

/-- Behind one more character there are the places of the text, and in it there are none. -/
theorem onEdge_cons_iff {c : Char} {t : Text} {count : Nat} (h : 0 < count) :
    OnEdge (c :: t) count ↔ c.utf8Size ≤ count ∧ OnEdge t (count - c.utf8Size) := by
  rw [onEdge_iff, onEdge_iff]
  constructor
  · rintro ⟨a, b, heq, rfl⟩
    cases a with
    | nil => exact absurd h (Nat.lt_irrefl 0)
    | cons d a =>
        rw [List.cons_append, List.cons.injEq] at heq
        rcases heq with ⟨rfl, rfl⟩
        rw [octets]
        exact ⟨by omega, a, b, rfl, by omega⟩
  · rintro ⟨hle, a, b, rfl, ha⟩
    exact ⟨c :: a, b, rfl, by rw [octets]; omega⟩

end Text

end HelpWiring
