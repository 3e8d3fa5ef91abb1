import HelpWiring.Text.Blank

/-!
# Seams

Putting new text between two parts of a page may tear apart what stood there.
It does not where the second part starts with a blank, or where one of the
parts is missing: such a place is a seam. A text without blanks, a solid one,
that occurs in the page cannot lie across a seam, so it occurs in the page
afterwards as well, whatever was put in.

That is all that the guards of the fragments rest on: what they look for is
solid whenever the tag is.

Lines follow the same pattern. Where two texts meet, the last line of the one
and the first line of the other become one line, and all other lines stay.

## Main definitions

* `isSolid`: A text without blanks.
* `Seam`: Between these parts nothing solid is torn apart.

## Theorems

* `notMem_of_isSolid`: A solid text holds no blank, and so is one line.
* `infix_insert`: What is solid outlasts what is put in at a seam.
* `glue_cons`, `glue_append`: Joining one list of pieces after another.
* `infix_glue`: A piece occurs in what it is a piece of.
* `cut_append`: The pieces of two texts in a row.
* `length_cut`: There is one piece more than separators.
* `exists_cut_cons`, `exists_cut_concat`: A text has a first and a last piece.
* `prefix_of_cut`: A text starts with its first piece.
-/

namespace HelpWiring

namespace Text

/-- A text without blanks. -/
def isSolid (t : Text) : Bool := t.all fun c => !isBlank c

theorem isSolid_iff {t : Text} : t.isSolid = true ↔ ∀ c ∈ t, isBlank c = false := by
  simp only [isSolid, List.all_eq_true, Bool.not_eq_true']

theorem notMem_of_isSolid {t : Text} {c : Char} (ht : t.isSolid = true)
    (hc : isBlank c = true) : c ∉ t := by
  intro h
  rw [isSolid_iff.1 ht c h] at hc
  exact absurd hc Bool.false_ne_true

/-- Between these parts of a text nothing solid is torn apart. -/
def Seam (a b : Text) : Prop := a = [] ∨ ∀ c ∈ b.head?, isBlank c = true

theorem infix_insert {piece a b : Text} (block : Text) (hsolid : piece.isSolid = true)
    (hseam : Seam a b) (h : piece <:+: a ++ b) : piece <:+: a ++ (block ++ b) := by
  rcases List.infix_append_iff_ne_nil.1 h with h | h | ⟨s, t, hs, ht, rfl, hsa, htb⟩
  · exact List.infix_append_of_infix_left h
  · exact List.infix_append_of_infix_right (List.infix_append_of_infix_right h)
  · exfalso
    -- the part behind the seam would start with a blank
    cases t with
    | nil => exact ht rfl
    | cons c r =>
        rcases htb with ⟨rest, rfl⟩
        rcases hseam with rfl | hblank
        · exact hs (List.suffix_nil.1 hsa)
        · have hc : isBlank c = true := hblank c rfl
          exact notMem_of_isSolid hsolid hc (List.mem_append_right s List.mem_cons_self)

theorem mentions_insert {piece a b : Text} (block : Text) (hsolid : piece.isSolid = true)
    (hseam : Seam a b) (h : (a ++ b).mentions piece = true) :
    (a ++ (block ++ b)).mentions piece = true :=
  mentions_iff.2 (infix_insert block hsolid hseam (mentions_iff.1 h))

theorem glue_cons {sep : Char} {piece : Text} {pieces : List Text} (h : pieces ≠ []) :
    glue sep (piece :: pieces) = piece ++ sep :: glue sep pieces := by
  cases pieces with
  | nil => exact absurd rfl h
  | cons p ps => rfl

theorem glue_append {sep : Char} {xs ys : List Text} (hx : xs ≠ []) (hy : ys ≠ []) :
    glue sep (xs ++ ys) = glue sep xs ++ sep :: glue sep ys := by
  induction xs with
  | nil => exact absurd rfl hx
  | cons x xs ih =>
      cases xs with
      | nil => exact glue_cons hy
      | cons z zs =>
          have hne : z :: zs ≠ [] := List.cons_ne_nil _ _
          rw [List.cons_append, glue_cons (List.append_ne_nil_of_left_ne_nil hne ys), ih hne,
            glue_cons hne, List.append_assoc, List.cons_append]

theorem infix_glue {sep : Char} {piece : Text} {pieces : List Text} (h : piece ∈ pieces) :
    piece <:+: glue sep pieces := by
  induction pieces with
  | nil => exact absurd h List.not_mem_nil
  | cons p ps ih =>
      cases ps with
      | nil =>
          rw [List.mem_singleton.1 h]
          exact List.infix_rfl
      | cons q qs =>
          rw [glue_cons (List.cons_ne_nil q qs)]
          rcases List.mem_cons.1 h with rfl | h
          · exact List.infix_append_left
          · exact (ih h).trans ((List.suffix_cons sep _).isInfix.trans List.infix_append_right)

/-- Where two lists of pieces meet, the last piece of the one and the first of
    the other become one. -/
theorem glue_append_glue (sep : Char) (front : List Text) (x y : Text) (back : List Text) :
    glue sep (front ++ [x]) ++ glue sep (y :: back) = glue sep (front ++ (x ++ y) :: back) := by
  induction front with
  | nil =>
      cases back with
      | nil => rfl
      | cons z zs => simp only [List.nil_append, glue, List.append_assoc]
  | cons p ps ih =>
      rw [List.cons_append, List.cons_append,
        glue_cons (List.append_ne_nil_of_right_ne_nil ps (List.cons_ne_nil x [])),
        glue_cons (List.append_ne_nil_of_right_ne_nil ps (List.cons_ne_nil _ _)), ← ih,
        List.append_assoc, List.cons_append]

theorem cut_append {sep : Char} {a b x y : Text} {front back : List Text}
    (ha : cut sep a = front ++ [x]) (hb : cut sep b = y :: back) :
    cut sep (a ++ b) = front ++ (x ++ y) :: back := by
  have hglue : a ++ b = glue sep (front ++ (x ++ y) :: back) := by
    rw [← glue_append_glue, ← ha, ← hb, glue_cut, glue_cut]
  rw [hglue]
  refine cut_glue (List.append_ne_nil_of_right_ne_nil front (List.cons_ne_nil _ _)) ?_
  intro piece hpiece
  rcases List.mem_append.1 hpiece with h | h
  · exact notMem_of_mem_cut (ha ▸ List.mem_append_left [x] h)
  · rcases List.mem_cons.1 h with rfl | h
    · have hx : sep ∉ x := notMem_of_mem_cut (ha ▸ List.mem_append_right front List.mem_cons_self)
      have hy : sep ∉ y := notMem_of_mem_cut (hb ▸ List.mem_cons_self)
      exact fun hm => (List.mem_append.1 hm).elim hx hy
    · exact notMem_of_mem_cut (hb ▸ List.mem_cons_of_mem y h)

theorem length_cut (sep : Char) (t : Text) : (cut sep t).length = t.count sep + 1 := by
  induction t with
  | nil => rfl
  | cons c r ih =>
      by_cases h : c = sep
      · subst h
        rw [cut_cons_self, List.length_cons, List.count_cons_self, ih]
      · rw [cut_cons_other h, List.length_modifyHead, List.count_cons_of_ne h, ih]

/-- The first piece of a text. -/
theorem exists_cut_cons (sep : Char) (t : Text) : ∃ piece pieces, cut sep t = piece :: pieces :=
  List.exists_cons_of_ne_nil (cut_ne_nil sep t)

/-- The last piece of a text. -/
theorem exists_cut_concat (sep : Char) (t : Text) :
    ∃ pieces piece, cut sep t = pieces ++ [piece] := by
  rcases List.eq_nil_or_concat (cut sep t) with hnil | ⟨pieces, piece, h⟩
  · exact absurd hnil (cut_ne_nil sep t)
  · exact ⟨pieces, piece, h.trans List.concat_eq_append⟩

theorem prefix_of_cut {sep : Char} {t piece : Text} {pieces : List Text}
    (h : cut sep t = piece :: pieces) : piece <+: t := by
  rw [← glue_cut sep t, h]
  cases pieces with
  | nil => exact List.prefix_rfl
  | cons p ps => exact List.prefix_append _ _

end Text

end HelpWiring
