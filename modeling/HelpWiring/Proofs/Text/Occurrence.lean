import HelpWiring.Proofs.Text.Seam

/-!
# Occurrences

At how many places a text occurs in another. Of two texts in a row, the first
and the second one hold some of these places, and others lie across the line
between them. What lies across has the last character of the one and the first
of the other in it. If one of these two is not in the text that is looked for,
the texts are parted for it, and the places in both are all there are.

A page with a fragment in it is parted at both ends of the fragment for all
that the guards look for, since there are blanks at these ends and none in what
the guards look for. So it is enough to count in the page and in the fragment.

## Main definitions

* `Text.occurrences`: At how many places a text occurs.
* `Text.Parted`: Two texts that it does not lie across.
* `Text.Gapped`: Two texts that nothing solid lies across.

## Theorems

* `occurrences_eq_zero_iff`: A text that is nowhere.
* `occurrences_append`: The places in two texts that are parted.
* `infix_append_iff`: Where it occurs in such texts.
* `infix_glue_iff`, `infix_iff_lines`: A text without the separator occurs in one of the pieces.
* `cons_infix_append_iff`: A text occurs behind what has not its first character.
* `occurrences_self`: A text occurs once in itself.
-/

namespace HelpWiring

namespace Text

/-- At how many places a piece occurs in a text. -/
def occurrences (piece : Text) : Text → Nat
  | [] => 0
  | c :: rest => (if piece.isPrefixOf (c :: rest) then 1 else 0) + occurrences piece rest

/-- Two texts that a piece does not lie across: it has not the last character of the
    one, or not the first of the other. -/
def Parted (piece a t : Text) : Prop := (∀ c ∈ a.getLast?, c ∉ piece) ∨ ∀ c ∈ t.head?, c ∉ piece

/-- Two texts with a blank where they meet, on one side at least. -/
def Gapped (a t : Text) : Prop :=
  (∀ c ∈ a.getLast?, isBlank c = true) ∨ ∀ c ∈ t.head?, isBlank c = true

/-- Nothing solid lies across a blank. -/
theorem Gapped.parted {piece a t : Text} (h : Gapped a t) (hsolid : piece.isSolid = true) :
    Parted piece a t :=
  h.imp (fun h c hc => notMem_of_isSolid hsolid (h c hc))
    fun h c hc => notMem_of_isSolid hsolid (h c hc)

theorem Gapped.of_getLast? {a b t : Text} {c : Char} (hb : b.getLast? = some c)
    (hc : isBlank c = true) : Gapped (a ++ b) t := by
  refine Or.inl fun d hd => ?_
  rw [List.getLast?_append, hb, Option.some_or, Option.mem_some] at hd
  exact hd ▸ hc

theorem Gapped.of_head? {a b t : Text} {c : Char} (hb : b.head? = some c)
    (hc : isBlank c = true) : Gapped a (b ++ t) := by
  refine Or.inr fun d hd => ?_
  rw [List.head?_append, hb, Option.some_or, Option.mem_some] at hd
  exact hd ▸ hc

theorem Parted.tail {piece a t : Text} {c : Char} (h : Parted piece (c :: a) t) :
    Parted piece a t := by
  rcases h with h | h
  · cases a with
    | nil => exact Or.inl fun d hd => absurd hd (by simp only [List.getLast?_nil, Option.mem_def,
        reduceCtorEq, not_false_eq_true])
    | cons d r =>
        rw [List.getLast?_cons_cons] at h
        exact Or.inl h
  · exact Or.inr h

/-- Where texts are parted, a piece that starts in the first one ends in it. -/
theorem prefix_append_iff_of_parted {piece a t : Text} (ha : a ≠ []) (h : Parted piece a t) :
    piece <+: a ++ t ↔ piece <+: a := by
  constructor
  · rintro ⟨behind, heq⟩
    rcases List.append_eq_append_iff.1 heq with ⟨more, hin, -⟩ | ⟨more, rfl, ht⟩
    · exact ⟨more, hin.symm⟩
    · cases more with
      | nil => exact ⟨[], by rw [List.append_nil, List.append_nil]⟩
      | cons c r =>
          exfalso
          rcases h with h | h
          · -- the last character of the first text is in the piece
            exact h _ (List.getLast?_eq_some_getLast ha) (List.mem_append_left _ (List.getLast_mem ha))
          · -- so is the first one of the second
            rw [ht] at h
            exact h c rfl (List.mem_append_right _ List.mem_cons_self)
  · exact fun hpiece => hpiece.trans (List.prefix_append a t)

theorem occurrences_eq_zero_iff {piece t : Text} (hne : piece ≠ []) :
    occurrences piece t = 0 ↔ ¬ piece <:+: t := by
  induction t with
  | nil =>
      rw [List.infix_nil]
      exact iff_of_true rfl hne
  | cons c r ih =>
      rw [occurrences, Nat.add_eq_zero_iff, ih, List.infix_cons_iff, not_or,
        ← List.isPrefixOf_iff_prefix]
      refine and_congr_left fun _ => ?_
      by_cases hhere : piece.isPrefixOf (c :: r) = true
      · rw [if_pos hhere]
        exact iff_of_false Nat.one_ne_zero fun hno => hno hhere
      · rw [if_neg hhere]
        exact iff_of_true rfl hhere

/-- The places in two texts that are parted are those in either. -/
theorem occurrences_append {piece a t : Text} (h : Parted piece a t) :
    occurrences piece (a ++ t) = occurrences piece a + occurrences piece t := by
  -- on the first text, as what is parted stays so without its first character
  induction a with
  | nil => exact (Nat.zero_add _).symm
  | cons c r ih =>
      have hhere : piece.isPrefixOf (c :: r ++ t) = piece.isPrefixOf (c :: r) := by
        rw [Bool.eq_iff_iff, List.isPrefixOf_iff_prefix, List.isPrefixOf_iff_prefix]
        exact prefix_append_iff_of_parted (List.cons_ne_nil c r) h
      rw [List.cons_append] at hhere ⊢
      rw [occurrences, occurrences, hhere, ih h.tail, Nat.add_assoc]

theorem infix_append_iff {piece a t : Text} (hne : piece ≠ []) (h : Parted piece a t) :
    piece <:+: a ++ t ↔ piece <:+: a ∨ piece <:+: t := by
  refine Decidable.not_iff_not.1 ?_
  rw [not_or, ← occurrences_eq_zero_iff hne, ← occurrences_eq_zero_iff hne,
    ← occurrences_eq_zero_iff hne, occurrences_append h, Nat.add_eq_zero_iff]

/-- A text is parted by any character that the piece has not. -/
theorem infix_append_cons_iff {piece a t : Text} {c : Char} (hne : piece ≠ []) (hc : c ∉ piece) :
    piece <:+: a ++ c :: t ↔ piece <:+: a ∨ piece <:+: t := by
  have hparted : Parted piece a (c :: t) := Or.inr fun d hd => Option.some.inj hd ▸ hc
  have hprefix : ¬ piece <+: c :: t := by
    intro h
    cases piece with
    | nil => exact hne rfl
    | cons d r => exact hc ((List.cons_prefix_cons.1 h).1 ▸ List.mem_cons_self)
  rw [infix_append_iff hne hparted, List.infix_cons_iff, or_iff_right hprefix]

/-- What is between separators is in one of the pieces. -/
theorem infix_glue_iff {sep : Char} {piece : Text} {pieces : List Text} (hne : piece ≠ [])
    (hsep : sep ∉ piece) : piece <:+: glue sep pieces ↔ ∃ p ∈ pieces, piece <:+: p := by
  induction pieces with
  | nil =>
      refine iff_of_false (fun h => hne (List.infix_nil.1 h)) ?_
      rintro ⟨p, hp, -⟩
      exact List.not_mem_nil hp
  | cons p ps ih =>
      cases ps with
      | nil =>
          simp only [List.mem_singleton, exists_eq_left]
          rfl
      | cons q qs =>
          rw [glue_cons (List.cons_ne_nil q qs), infix_append_cons_iff hne hsep, ih]
          simp only [List.mem_cons, exists_eq_or_imp]

theorem infix_iff_lines {piece t : Text} (hne : piece ≠ []) (hfeed : '\n' ∉ piece) :
    piece <:+: t ↔ ∃ line ∈ t.lines, piece <:+: line := by
  rw [← infix_glue_iff hne hfeed, glue_cut]

/-- A text does not hold the first character of the piece, so the piece is behind it. -/
theorem cons_infix_append_iff {c : Char} {r a t : Text} (h : c ∉ a) :
    c :: r <:+: a ++ t ↔ c :: r <:+: t := by
  induction a with
  | nil => rfl
  | cons d a ih =>
      have hhere : ¬ c :: r <+: d :: (a ++ t) := fun hprefix =>
        h ((List.cons_prefix_cons.1 hprefix).1 ▸ List.mem_cons_self)
      rw [List.cons_append, List.infix_cons_iff, or_iff_right hhere,
        ih fun hmem => h (List.mem_cons_of_mem d hmem)]

/-- Two neighbours in two texts are both in the one or both in the other, or the second
    text starts with the second of them. -/
theorem pair_infix_append {c d : Char} {a t : Text} (h : [c, d] <:+: a ++ t) :
    [c, d] <:+: a ∨ [c, d] <:+: t ∨ t.head? = some d := by
  -- a pair that lies across has one character on each side
  rcases List.infix_append_iff_ne_nil.1 h with h | h | ⟨x, y, hx, hy, hxy, -, hprefix⟩
  · exact Or.inl h
  · exact Or.inr (Or.inl h)
  · refine Or.inr (Or.inr ?_)
    have hlength := congrArg List.length hxy
    have hx' := List.length_pos_iff.2 hx
    have hy' := List.length_pos_iff.2 hy
    rw [List.length_append, List.length_cons, List.length_singleton] at hlength
    obtain ⟨e, rfl⟩ := List.length_eq_one_iff.1 (by omega : x.length = 1)
    obtain ⟨f, rfl⟩ := List.length_eq_one_iff.1 (by omega : y.length = 1)
    obtain rfl : d = f := (List.cons.inj (List.cons.inj hxy).2).1
    rcases hprefix with ⟨z, rfl⟩
    rfl

theorem occurrences_of_length_lt {piece t : Text} (h : t.length < piece.length) :
    occurrences piece t = 0 := by
  have hne : piece ≠ [] := List.ne_nil_of_length_pos (by omega)
  rw [occurrences_eq_zero_iff hne]
  intro hinfix
  have hle := hinfix.length_le
  omega

theorem occurrences_self {piece : Text} (hne : piece ≠ []) : occurrences piece piece = 1 := by
  cases piece with
  | nil => exact absurd rfl hne
  | cons c r =>
      have hrest : occurrences (c :: r) r = 0 := occurrences_of_length_lt (Nat.lt_succ_self _)
      rw [occurrences, hrest, if_pos (List.isPrefixOf_iff_prefix.2 List.prefix_rfl)]

/-- One more character makes room for one more place, where the piece would have to
    start like its own second character. -/
theorem occurrences_concat {c d : Char} (hne : c ≠ d) (r : Text) (e : Char) :
    occurrences (c :: d :: r) (c :: d :: r ++ [e]) = 1 := by
  have hhere : (c :: d :: r).isPrefixOf (c :: (d :: (r ++ [e]))) = true :=
    List.isPrefixOf_iff_prefix.2 (List.prefix_append (c :: d :: r) [e])
  have hnext : ¬ (c :: d :: r).isPrefixOf (d :: (r ++ [e])) = true := fun h =>
    hne (List.cons_prefix_cons.1 (List.isPrefixOf_iff_prefix.1 h)).1
  have hrest : occurrences (c :: d :: r) (r ++ [e]) = 0 := by
    refine occurrences_of_length_lt ?_
    simp only [List.length_append, List.length_cons, List.length_nil]
    omega
  rw [List.cons_append, List.cons_append, occurrences, occurrences, if_pos hhere, if_neg hnext,
    hrest]

end Text

end HelpWiring
