/-!
# Texts and Their Pieces

A text is a list of characters, and everything this library decides about a
page it decides on that list. Two views of a text carry the work: its pieces
between separators, which are the lines of a page and the names in a path, and
its suffixes, which is how a piece of text is looked for.

Lines are cut at the line feed alone. A carriage return stays where it is, at
the end of its line, and a text that ends in a line feed has an empty last
line. Cut this way nothing is lost: `glue_cut` puts every text back together,
and `cut_glue` says that pieces free of the separator come back as they went
in.

Looking for a piece is `mentions`, and `mentions_iff` says it is the infix
order on lists.

## Main definitions

* `Text`: A list of characters.
* `Text.cut`: The pieces between separators.
* `Text.glue`: Pieces joined by separators.
* `Text.lines`, `Text.unlines`: The same for line feeds.
* `Text.someSuffix`: Whether a test holds of the rest of the text somewhere.
* `Text.mentions`: Whether one text occurs inside another.
* `Text.ofNat`: A number in decimal digits.

## Theorems

* `cut_ne_nil`: Every text has a piece.
* `cut_cons_self`, `cut_cons_other`: How one more character in front changes
  the pieces.
* `notMem_of_mem_cut`: No piece holds the separator.
* `glue_cut`: Joining the pieces of a text gives the text.
* `cut_append_cons`: A piece in front of a separator is cut off whole.
* `cut_of_notMem`: A text without separators is one piece.
* `cut_glue`: Cutting joined pieces gives the pieces.
* `someSuffix_iff`: The test holds of some suffix.
* `mentions_iff`: A text mentions exactly its infixes.
-/

namespace HelpWiring

/-- A text: the characters of a page, a path, a catalog or a report. -/
abbrev Text := List Char

namespace Text

/-- The pieces of a text between its separators, the empty ones included. -/
def cut (sep : Char) : Text → List Text
  | [] => [[]]
  | c :: rest => if c = sep then [] :: cut sep rest else (cut sep rest).modifyHead (c :: ·)

/-- Pieces put together, a separator between each two. -/
def glue (sep : Char) : List Text → Text
  | [] => []
  | [piece] => piece
  | piece :: next :: more => piece ++ sep :: glue sep (next :: more)

theorem cut_cons_self (sep : Char) (t : Text) : cut sep (sep :: t) = [] :: cut sep t := by
  simp only [cut, if_true]

theorem cut_cons_other {sep c : Char} (h : c ≠ sep) (t : Text) :
    cut sep (c :: t) = (cut sep t).modifyHead (c :: ·) := by
  simp only [cut, if_neg h]

theorem cut_ne_nil (sep : Char) (t : Text) : cut sep t ≠ [] := by
  induction t with
  | nil => exact List.cons_ne_nil _ _
  | cons c r ih =>
      by_cases h : c = sep
      · subst h
        rw [cut_cons_self]
        exact List.cons_ne_nil _ _
      · rw [cut_cons_other h]
        cases hl : cut sep r with
        | nil => exact absurd hl ih
        | cons l ls => exact List.cons_ne_nil _ _

theorem notMem_of_mem_cut {sep : Char} {t piece : Text} (h : piece ∈ cut sep t) :
    sep ∉ piece := by
  induction t generalizing piece with
  | nil =>
      simp only [cut, List.mem_singleton] at h
      subst h
      exact List.not_mem_nil
  | cons c r ih =>
      by_cases hc : c = sep
      · subst hc
        rw [cut_cons_self] at h
        rcases List.mem_cons.1 h with rfl | h
        · exact List.not_mem_nil
        · exact ih h
      · rw [cut_cons_other hc] at h
        cases hl : cut sep r with
        | nil => exact absurd hl (cut_ne_nil sep r)
        | cons l ls =>
            rw [hl, List.modifyHead_cons] at h
            rcases List.mem_cons.1 h with rfl | h
            · intro hm
              rcases List.mem_cons.1 hm with hm | hm
              · exact hc hm.symm
              · exact ih (hl ▸ List.mem_cons_self) hm
            · exact ih (hl ▸ List.mem_cons_of_mem _ h)

theorem glue_cut (sep : Char) (t : Text) : glue sep (cut sep t) = t := by
  induction t with
  | nil => rfl
  | cons c r ih =>
      cases hl : cut sep r with
      | nil => exact absurd hl (cut_ne_nil sep r)
      | cons l ls =>
          rw [hl] at ih
          by_cases hc : c = sep
          · subst hc
            rw [cut_cons_self, hl, glue, ih, List.nil_append]
          · rw [cut_cons_other hc, hl, List.modifyHead_cons]
            cases ls with
            | nil => rw [← ih, glue, glue]
            | cons m ms => rw [← ih, glue, glue, List.cons_append]

theorem cut_append_cons {sep : Char} {piece : Text} (h : sep ∉ piece) (t : Text) :
    cut sep (piece ++ sep :: t) = piece :: cut sep t := by
  induction piece with
  | nil => exact cut_cons_self sep t
  | cons c r ih =>
      rw [List.mem_cons, not_or] at h
      rw [List.cons_append, cut_cons_other (Ne.symm h.1), ih h.2, List.modifyHead_cons]

theorem cut_of_notMem {sep : Char} {piece : Text} (h : sep ∉ piece) :
    cut sep piece = [piece] := by
  induction piece with
  | nil => rfl
  | cons c r ih =>
      rw [List.mem_cons, not_or] at h
      rw [cut_cons_other (Ne.symm h.1), ih h.2, List.modifyHead_cons]

theorem cut_glue {sep : Char} {pieces : List Text} (hne : pieces ≠ [])
    (h : ∀ p ∈ pieces, sep ∉ p) : cut sep (glue sep pieces) = pieces := by
  induction pieces with
  | nil => exact absurd rfl hne
  | cons p ps ih =>
      cases ps with
      | nil => exact cut_of_notMem (h p List.mem_cons_self)
      | cons q qs =>
          rw [glue, cut_append_cons (h p List.mem_cons_self),
            ih (List.cons_ne_nil _ _) fun x hx => h x (List.mem_cons_of_mem _ hx)]

/-- The lines of a text, cut at line feeds only. -/
abbrev lines (t : Text) : List Text := cut '\n' t

/-- Lines put back together. -/
abbrev unlines (ls : List Text) : Text := glue '\n' ls

/-- Whether `test` holds of what is left of the text at some place, its end
    included. -/
def someSuffix (test : Text → Bool) : Text → Bool
  | [] => test []
  | c :: rest => test (c :: rest) || someSuffix test rest

theorem someSuffix_iff {test : Text → Bool} {t : Text} :
    someSuffix test t = true ↔ ∃ s, s <:+ t ∧ test s = true := by
  induction t with
  | nil =>
      simp only [someSuffix, List.suffix_nil]
      exact ⟨fun h => ⟨[], rfl, h⟩, fun ⟨_, hs, h⟩ => hs ▸ h⟩
  | cons c r ih =>
      simp only [someSuffix, Bool.or_eq_true, ih, List.suffix_cons_iff]
      constructor
      · rintro (h | ⟨s, hs, h⟩)
        · exact ⟨_, Or.inl rfl, h⟩
        · exact ⟨s, Or.inr hs, h⟩
      · rintro ⟨s, rfl | hs, h⟩
        · exact Or.inl h
        · exact Or.inr ⟨s, hs, h⟩

/-- Whether `piece` occurs somewhere in the text. -/
def mentions (t piece : Text) : Bool := someSuffix piece.isPrefixOf t

theorem mentions_iff {t piece : Text} : mentions t piece = true ↔ piece <:+: t := by
  simp only [mentions, someSuffix_iff, List.isPrefixOf_iff_prefix]
  exact ⟨fun ⟨_, hs, hp⟩ => hp.isInfix.trans hs.isInfix,
    fun ⟨a, b, h⟩ => ⟨piece ++ b, ⟨a, by rw [← h, List.append_assoc]⟩, b, rfl⟩⟩

/-- A number in decimal digits. -/
def ofNat (n : Nat) : Text := Nat.toDigits 10 n

theorem isDigit_of_mem_ofNat {n : Nat} {c : Char} (h : c ∈ ofNat n) : c.isDigit = true :=
  Nat.isDigit_of_mem_toDigits (by decide) (by decide) h

end Text

end HelpWiring
