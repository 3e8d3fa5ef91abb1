import HelpWiring.Page.Slot
import HelpWiring.Text.Octets

/-!
# Splicing

Putting a fragment into a page at a slot. Between lines, each line of the
fragment becomes a line of its own, indented by the same number of spaces; an
index past the last line means the end. Inside a line the fragment goes in as
it is, after so many octets; an offset past the end means the end, and an
offset inside a character is refused, because no text could be cut there.

`insertLines_lines` is the law for lines: the new lines stand between those in
front of the index and those after it, and nothing else changes.
`insertAfter_append` is the law for octets, and `splice_isSome_of_findSlot` says
that the slot at the closing lines is never refused.

## Main definitions

* `insertLines`: New lines in front of a line.
* `insertAfter?`: New text after some octets.
* `splice?`: A fragment at a slot.

## Theorems

* `insertLines_lines`: The lines of a page with new lines in it.
* `insertAfter_append`: New text between two parts of a page.
* `closingFrom_eq_some`: The octets in front of the closing lines are those of
  the characters in front of them.
* `splice_isSome_of_findSlot`: A slot that was found is never refused.
-/

namespace HelpWiring

/-- A line after some spaces. -/
def indented (spaces : Nat) (line : Text) : Text := List.replicate spaces ' ' ++ line

theorem notMem_indented {c : Char} (hc : c ≠ ' ') {t : Text} (ht : c ∉ t) (n : Nat) :
    c ∉ indented n t := by
  intro h
  rcases List.mem_append.1 h with h | h
  · exact hc (List.eq_of_mem_replicate h)
  · exact ht h

/-- The lines of a fragment in front of the line with some index. -/
def insertLines (index indent : Nat) (fragment page : Text) : Text :=
  Text.unlines
    (page.lines.take index ++ (fragment.lines.map (indented indent) ++ page.lines.drop index))

theorem insertLines_lines (index indent : Nat) (fragment page : Text) :
    (insertLines index indent fragment page).lines
      = page.lines.take index
        ++ (fragment.lines.map (indented indent) ++ page.lines.drop index) := by
  refine Text.cut_glue ?_ ?_
  · intro h
    have hmap := (List.append_eq_nil_iff.1 (List.append_eq_nil_iff.1 h).2).1
    exact Text.cut_ne_nil '\n' fragment (List.map_eq_nil_iff.1 hmap)
  · intro line hline
    rcases List.mem_append.1 hline with h | h
    · exact Text.notMem_of_mem_cut (List.mem_of_mem_take h)
    · rcases List.mem_append.1 h with h | h
      · obtain ⟨l, hl, rfl⟩ := List.mem_map.1 h
        exact notMem_indented (by decide) (Text.notMem_of_mem_cut hl) indent
      · exact Text.notMem_of_mem_cut (List.mem_of_mem_drop h)

/-- A fragment after some octets of a page, unless that would cut a character. -/
def insertAfter? (count : Nat) (fragment : Text) : Text → Option Text
  | [] => some fragment
  | c :: rest =>
    if count = 0 then some (fragment ++ c :: rest)
    else if count < c.utf8Size then none
    else (insertAfter? (count - c.utf8Size) fragment rest).map (c :: ·)

theorem insertAfter_append (fragment a b : Text) :
    insertAfter? (octets a) fragment (a ++ b) = some (a ++ (fragment ++ b)) := by
  induction a with
  | nil =>
      cases b with
      | nil => simp only [List.nil_append, insertAfter?, List.append_nil]
      | cons c r => simp only [octets, List.nil_append, insertAfter?, if_true]
  | cons c r ih =>
      have hpos := c.utf8Size_pos
      have hsub : c.utf8Size + octets r - c.utf8Size = octets r := by omega
      rw [List.cons_append, insertAfter?, octets, if_neg (by omega), if_neg (by omega), hsub, ih,
        Option.map_some, List.cons_append]

theorem closingFrom_eq_some {start n : Nat} {page : Text}
    (h : closingFrom start page = some n) :
    ∃ a b, page = a ++ b ∧ n = start + octets a ∧ closesPage b = true := by
  induction page generalizing start with
  | nil => simp only [closingFrom, reduceCtorEq] at h
  | cons c r ih =>
      rw [closingFrom] at h
      by_cases hc : closesPage (c :: r) = true
      · rw [if_pos hc, Option.some.injEq] at h
        exact ⟨[], c :: r, rfl, by rw [octets]; omega, hc⟩
      · rw [if_neg hc] at h
        obtain ⟨a, b, hab, hn, hb⟩ := ih h
        exact ⟨c :: a, b, by rw [hab, List.cons_append], by rw [octets]; omega, hb⟩

/-- A fragment at a slot of a page. -/
def splice? (page : Text) (slot : Slot) (fragment : Text) : Option Text :=
  match slot with
  | .line index indent => some (insertLines index indent fragment page)
  | .offset count => insertAfter? count fragment page

theorem splice_isSome_of_findSlot {page : Text} {kind : Kind} {slot : Slot}
    (h : findSlot page kind = .ok slot) (fragment : Text) :
    (splice? page slot fragment).isSome = true := by
  cases slot with
  | line index indent => rfl
  | offset count =>
      cases kind with
      | imports =>
          simp only [findSlot, importSlot] at h
          split at h <;> simp only [Except.ok.injEq, reduceCtorEq] at h
      | hook =>
          simp only [findSlot, hookSlot] at h
          split at h
          · simp only [reduceCtorEq] at h
          · split at h <;> simp only [Except.ok.injEq, reduceCtorEq] at h
      | component =>
          simp only [findSlot, popupSlot] at h
          split at h
          · rename_i n hn
            simp only [Except.ok.injEq, Slot.offset.injEq] at h
            subst h
            obtain ⟨a, b, rfl, hn, -⟩ := closingFrom_eq_some hn
            rw [Nat.zero_add] at hn
            rw [splice?, hn, insertAfter_append]
            rfl
          · simp only [reduceCtorEq] at h

end HelpWiring
