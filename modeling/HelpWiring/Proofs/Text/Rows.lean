import HelpWiring.Page.Splice
import HelpWiring.Proofs.Text.Occurrence

/-!
# Rows

A row is a line with the line feed behind it. Rows can be put in front of any
text without a look at what that text is: its lines stay, and the rows are the
lines in front of them. So a page is taken apart at the start of a line, into
the rows above it and the text from there on, and new lines are rows between
the two.

`insertLines` joins lists of lines, with a line feed between each two. At the
end of some rows that comes to the same, and `insertLines_rows` says so. Only
behind the last line of a page it does not.

## Main definitions

* `Text.rows`: Lines, each with its line feed.
* `lineStart`: How many octets lead to a line.

## Theorems

* `lines_rows_append`: The lines of a text behind some rows.
* `rows_append_unlines`: Rows in front of joined lines.
* `count_rows`: Rows have one line feed each.
* `exists_rows_of_feed`, `exists_feed_of_rows`: What ends in a line feed is all rows.
* `eq_of_lines`, `prefix_of_feed`: A text by its lines.
* `rows_behind`: Rows that reach behind a text begin with it.
* `rows_above`: Rows that do not are the start of it.
* `gapped_rows`: Nothing solid lies across the end of rows.
* `eq_rows_append`, `exists_rows`: A page, taken apart at the start of a line.
* `insertLines_rows`: New lines are rows between two parts of a page.
* `split_of_octets_le`, `append_inj_of_octets`: Of two fronts of a text, the one
  with fewer octets is the front of the other.
-/

namespace HelpWiring

namespace Text

/-- Lines, each with a line feed behind it. -/
def rows : List Text → Text
  | [] => []
  | line :: more => line ++ '\n' :: rows more

theorem rows_append (front back : List Text) : rows (front ++ back) = rows front ++ rows back := by
  induction front with
  | nil => rfl
  | cons line more ih => rw [List.cons_append, rows, rows, ih, List.append_assoc, List.cons_append]

theorem rows_eq_flatMap (ls : List Text) : rows ls = ls.flatMap (· ++ ['\n']) := by
  induction ls with
  | nil => rfl
  | cons line more ih => rw [rows, List.flatMap_cons, ih, List.append_assoc, List.singleton_append]

theorem rows_eq_unlines {ls : List Text} (h : ls ≠ []) : rows ls = unlines ls ++ ['\n'] := by
  induction ls with
  | nil => exact absurd rfl h
  | cons line more ih =>
      cases more with
      | nil => rfl
      | cons next rest =>
          have hglue : unlines (line :: next :: rest) = line ++ '\n' :: unlines (next :: rest) :=
            glue_cons (List.cons_ne_nil next rest)
          rw [rows, ih (List.cons_ne_nil next rest), hglue, List.append_assoc, List.cons_append]

/-- New rows have their line feeds behind them, and behind other rows they may as well have
    them in front. -/
theorem rows_feed {front : List Text} (h : front ≠ []) (body rest : Text) :
    rows front ++ (body ++ ['\n'] ++ rest) = unlines front ++ ('\n' :: body ++ '\n' :: rest) := by
  rw [rows_eq_unlines h]
  simp only [List.append_assoc, List.cons_append, List.nil_append]

theorem rows_append_unlines (front : List Text) {back : List Text} (h : back ≠ []) :
    rows front ++ unlines back = unlines (front ++ back) := by
  by_cases hfront : front = []
  · rw [hfront, rows, List.nil_append, List.nil_append]
  · rw [rows_eq_unlines hfront, List.append_assoc, List.singleton_append]
    exact (glue_append hfront h).symm

theorem lines_rows_append {ls : List Text} (h : ∀ line ∈ ls, '\n' ∉ line) (t : Text) :
    (rows ls ++ t).lines = ls ++ t.lines := by
  induction ls with
  | nil => rfl
  | cons line more ih =>
      rw [rows, List.append_assoc, List.cons_append, lines,
        cut_append_cons (h line List.mem_cons_self), List.cons_append]
      exact congrArg (line :: ·) (ih fun l hl => h l (List.mem_cons_of_mem line hl))

/-- A text in front of a line feed is all rows. -/
theorem exists_rows_of_feed (t : Text) :
    ∃ ls, t ++ ['\n'] = rows ls ∧ (∀ line ∈ ls, '\n' ∉ line) ∧ ls.length = t.count '\n' + 1 := by
  have hglue : unlines t.lines = t := glue_cut '\n' t
  refine ⟨t.lines, ?_, fun line => notMem_of_mem_cut, length_cut '\n' t⟩
  rw [rows_eq_unlines (cut_ne_nil '\n' t), hglue]

/-- A text is known by its lines. -/
theorem eq_of_lines {s t : Text} (h : s.lines = t.lines) : s = t := by
  rw [← glue_cut '\n' s, ← glue_cut '\n' t]
  exact congrArg (glue '\n') h

/-- The lines of two texts with a line feed between them. -/
theorem lines_append_feed (a b : Text) : (a ++ '\n' :: b).lines = a.lines ++ b.lines := by
  rcases exists_cut_concat '\n' a with ⟨front, x, ha⟩
  have hfeed : cut '\n' ('\n' :: b) = [] :: cut '\n' b := cut_cons_self '\n' b
  rw [lines, cut_append ha hfeed, lines, ha, List.append_nil, List.append_assoc,
    List.singleton_append]

/-- A text starts with its first line. -/
theorem prefix_of_feed {line t s s' : Text} (hline : '\n' ∉ line)
    (h : line ++ '\n' :: s = t ++ '\n' :: s') : line <+: t := by
  rcases exists_cut_cons '\n' t with ⟨first, more, ht⟩
  have hlines := congrArg lines h
  rw [lines_append_feed, lines_append_feed, lines, cut_of_notMem hline, lines, lines, ht] at hlines
  exact (List.cons.inj hlines).1 ▸ prefix_of_cut ht

/-- A page is the rows above a line and the text from this line on. -/
theorem eq_rows_append {page : Text} {index : Nat} (h : index < page.lines.length) :
    page = rows (page.lines.take index) ++ unlines (page.lines.drop index) := by
  have hdrop : page.lines.drop index ≠ [] := fun hnil => by
    rw [List.drop_eq_nil_iff] at hnil
    omega
  rw [rows_append_unlines _ hdrop, List.take_append_drop]
  exact (glue_cut '\n' page).symm

theorem exists_rows {page : Text} {index : Nat} (h : index < page.lines.length) :
    ∃ ls rest, page = rows ls ++ rest ∧ ls.length = index ∧ ∀ line ∈ ls, '\n' ∉ line := by
  refine ⟨page.lines.take index, _, eq_rows_append h, ?_, fun line hline => ?_⟩
  · rw [List.length_take, Nat.min_eq_left (Nat.le_of_lt h)]
  · exact notMem_of_mem_cut (List.mem_of_mem_take hline)

/-- Rows end in a line feed. -/
theorem getLast?_rows {ls : List Text} (h : ls ≠ []) : (rows ls).getLast? = some '\n' := by
  rw [rows_eq_unlines h, List.getLast?_concat]

/-- So does every end of them that is not empty. -/
theorem exists_feed_of_rows {ls : List Text} {a c : Text} (h : rows ls = a ++ c) (hc : c ≠ []) :
    ∃ d, c = d ++ ['\n'] := by
  have hne : ls ≠ [] := by
    rintro rfl
    exact hc (List.append_eq_nil_iff.1 h.symm).2
  have hlast := getLast?_rows hne
  rcases List.eq_nil_or_concat c with rfl | ⟨d, e, rfl⟩
  · exact absurd rfl hc
  · rw [h, List.concat_eq_append, ← List.append_assoc, List.getLast?_concat,
      Option.some.injEq] at hlast
    exact ⟨d, by rw [List.concat_eq_append, hlast]⟩

theorem count_rows {ls : List Text} (h : ∀ line ∈ ls, '\n' ∉ line) :
    (rows ls).count '\n' = ls.length := by
  induction ls with
  | nil => rfl
  | cons line more ih =>
      rw [List.forall_mem_cons] at h
      rw [rows, List.count_append, List.count_eq_zero.2 h.1, List.count_cons_self, ih h.2,
        Nat.zero_add, List.length_cons]

/-- Rows with more line feeds than the text in front has go on behind it, and end in a line
    feed. -/
theorem rows_behind {a b rest : Text} {ls : List Text} (hls : ∀ line ∈ ls, '\n' ∉ line)
    (heq : a ++ b = rows ls ++ rest) (hcount : a.count '\n' < ls.length) :
    ∃ x, rows ls = a ++ (x ++ ['\n']) ∧ b = (x ++ ['\n']) ++ rest := by
  rcases List.append_eq_append_iff.1 heq with ⟨m, hm, hb⟩ | ⟨m, hm, -⟩
  · have hne : ls ≠ [] := List.ne_nil_of_length_pos (by omega)
    have hlast := getLast?_rows hne
    rcases List.eq_nil_or_concat m with rfl | ⟨x, c, rfl⟩
    · -- then the rows would have no more line feeds than that
      rw [List.append_nil] at hm
      rw [← hm, count_rows hls] at hcount
      exact absurd hcount (Nat.lt_irrefl _)
    · rw [List.concat_eq_append] at hm hb
      rw [hm, ← List.append_assoc, List.getLast?_concat, Option.some.injEq] at hlast
      subst hlast
      exact ⟨x, hm, hb⟩
  · rw [hm, List.count_append, count_rows hls] at hcount
    omega

/-- Rows with no more line feeds than the text in front has are in it. -/
theorem rows_above {a b rest : Text} {ls : List Text} (hls : ∀ line ∈ ls, '\n' ∉ line)
    (heq : a ++ b = rows ls ++ rest) (hcount : ls.length ≤ a.count '\n') :
    ∃ c, a = rows ls ++ c ∧ rest = c ++ b := by
  rcases List.append_eq_append_iff.1 heq with ⟨m, hm, hb⟩ | hin
  · rcases List.eq_nil_or_concat m with rfl | ⟨x, c, rfl⟩
    · exact ⟨[], by rw [hm, List.append_nil, List.append_nil], hb.symm⟩
    · -- the rows would go on behind the text, to a line feed of their own
      have hlength := count_rows hls
      rw [List.concat_eq_append] at hm
      have hne : ls ≠ [] := by
        rintro rfl
        have hnil : a ++ (x ++ [c]) = [] := hm.symm
        exact List.cons_ne_nil c [] (List.append_eq_nil_iff.1 (List.append_eq_nil_iff.1 hnil).2).2
      have hlast := getLast?_rows hne
      rw [hm, ← List.append_assoc, List.getLast?_concat, Option.some.injEq] at hlast
      rw [hm, hlast, List.count_append, List.count_append, List.count_singleton_self] at hlength
      omega
  · exact hin

/-- Behind rows, as at the start of a text, nothing solid goes on. -/
theorem gapped_rows (ls : List Text) (t : Text) : Gapped (rows ls) t := by
  by_cases hls : ls = []
  · rw [hls]
    refine Or.inl fun c hc => ?_
    exact absurd hc (by simp only [rows, List.getLast?_nil, Option.mem_def, reduceCtorEq,
      not_false_eq_true])
  · exact Gapped.of_getLast? (a := []) (getLast?_rows hls) (by decide)

end Text

/-- New lines at the end of some rows are rows between these and what follows. -/
theorem insertLines_rows {front : List Text} (h : ∀ line ∈ front, '\n' ∉ line) (indent : Nat)
    (fragment rest : Text) :
    insertLines front.length indent fragment (Text.rows front ++ rest)
      = Text.rows front ++ (Text.rows (fragment.lines.map (indented indent)) ++ rest) := by
  have hrest : rest.lines ≠ [] := Text.cut_ne_nil '\n' rest
  have hglue : Text.unlines rest.lines = rest := Text.glue_cut '\n' rest
  rw [insertLines, Text.lines_rows_append h, List.take_left, List.drop_left,
    ← Text.rows_append_unlines _ (List.append_ne_nil_of_right_ne_nil _ hrest),
    ← Text.rows_append_unlines _ hrest, hglue]

/-- How many octets lead to a line of a page. -/
def lineStart (page : Text) (index : Nat) : Nat := octets (Text.rows (page.lines.take index))

theorem eq_nil_of_octets {t : Text} (h : octets t = 0) : t = [] := by
  cases t with
  | nil => rfl
  | cons c r =>
      have hpos := c.utf8Size_pos
      rw [octets] at h
      omega

theorem split_of_octets_le {x y a b : Text} (h : x ++ y = a ++ b) (hle : octets x ≤ octets a) :
    ∃ c, a = x ++ c ∧ y = c ++ b := by
  rcases List.append_eq_append_iff.1 h with ⟨c, ha, hy⟩ | ⟨c, hx, hb⟩
  · exact ⟨c, ha, hy⟩
  · -- then `x` has no more octets than `a`, so nothing is left between them
    rw [hx, octets_append] at hle
    obtain rfl : c = [] := eq_nil_of_octets (by omega)
    exact ⟨[], by rw [hx, List.append_nil, List.append_nil], by rw [hb, List.nil_append,
      List.nil_append]⟩

/-- Two fronts of a text with as many octets are the same. -/
theorem append_inj_of_octets {x y a b : Text} (h : x ++ y = a ++ b) (heq : octets x = octets a) :
    x = a ∧ y = b := by
  rcases split_of_octets_le h (Nat.le_of_eq heq) with ⟨c, rfl, rfl⟩
  rw [octets_append] at heq
  obtain rfl : c = [] := eq_nil_of_octets (by omega)
  exact ⟨(List.append_nil x).symm, rfl⟩

end HelpWiring
