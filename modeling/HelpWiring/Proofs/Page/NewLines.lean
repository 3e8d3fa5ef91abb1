import HelpWiring.Page.Splice

/-!
# New Lines in a Page

Where the lines of a page go when new ones are put between them. A text is
joined from its lines, and each text has only one list of them, so a splice
between lines is known when the lines are: those above the index, the new ones,
and those from the index on. An index past the last line stands for the end.

Nothing is lost in this. The new lines can be found by where they are and how
many there are, and the page without them is the page from before, to the
last carriage return and the last line feed (`withoutLines_insertLines`).

## Main definitions

* `Text.withoutLines`: A text without some of its lines.
* `NewLines`: A page with new lines, by its lines.

## Theorems

* `withoutLines_of_lines`: What is left without the lines between two others.
* `lines_insertLines_min`, `length_lines_insertLines`,
  `lines_insertLines_of_length_le`: The lines after a splice, how many there
  are, and what they are at the end.
* `withoutLines_insertLines`: Without the new lines it is the same page.
* `splice_between_lines`: The law of a splice between lines.
-/

namespace HelpWiring

/-- A text without `count` of its lines, from the line `index` on. -/
def Text.withoutLines (t : Text) (index count : Nat) : Text :=
  Text.unlines (t.lines.take index ++ t.lines.drop (index + count))

/-- Lines between two others are taken out by how many lines are above them and how many they
    are. -/
theorem Text.withoutLines_of_lines {t : Text} {above new below : List Text}
    (h : t.lines = above ++ (new ++ below)) :
    t.withoutLines above.length new.length = Text.unlines (above ++ below) := by
  rw [withoutLines, h, List.take_left, ← List.drop_drop, List.drop_left, List.drop_left]

section

variable (index indent : Nat) (fragment page : Text)

/-- An index past the last line stands for the end. -/
theorem lines_insertLines_min :
    (insertLines index indent fragment page).lines
      = page.lines.take (min index page.lines.length)
        ++ (fragment.lines.map (indented indent)
          ++ page.lines.drop (min index page.lines.length)) := by
  rw [insertLines_lines, List.take_eq_take_min, List.drop_eq_drop_min]

theorem length_lines_insertLines :
    (insertLines index indent fragment page).lines.length
      = page.lines.length + fragment.lines.length := by
  have hcut := congrArg List.length (List.take_append_drop index page.lines)
  rw [List.length_append] at hcut
  rw [insertLines_lines, List.length_append, List.length_append, List.length_map]
  omega

theorem lines_insertLines_of_length_le {index : Nat} (h : page.lines.length ≤ index) :
    (insertLines index indent fragment page).lines
      = page.lines ++ fragment.lines.map (indented indent) := by
  rw [insertLines_lines, List.take_of_length_le h, List.drop_of_length_le h, List.append_nil]

/-- The page without its new lines is the page from before. -/
theorem withoutLines_insertLines :
    (insertLines index indent fragment page).withoutLines (min index page.lines.length)
      fragment.lines.length = page := by
  have hrest := Text.withoutLines_of_lines (lines_insertLines_min index indent fragment page)
  rw [List.length_take, Nat.min_eq_left (Nat.min_le_right _ _), List.length_map,
    List.take_append_drop] at hrest
  rw [hrest]
  exact Text.glue_cut '\n' page

/-- A page with the lines of a fragment in front of the line `index`. -/
structure NewLines (new : Text) : Prop where
  lines : new.lines = page.lines.take (min index page.lines.length)
    ++ (fragment.lines.map (indented indent) ++ page.lines.drop (min index page.lines.length))
  length : new.lines.length = page.lines.length + fragment.lines.length
  /-- At the end and past it, they are appended. -/
  appended : page.lines.length ≤ index →
    new.lines = page.lines ++ fragment.lines.map (indented indent)
  /-- The page is what is left without them. -/
  restored : new.withoutLines (min index page.lines.length) fragment.lines.length = page

/-- A splice between lines is never refused, and puts in the lines of the fragment and nothing
    else. -/
theorem splice_between_lines :
    ∃ new, splice? page (.line index indent) fragment = some new
      ∧ NewLines index indent fragment page new := by
  refine ⟨insertLines index indent fragment page, rfl, ?_⟩
  exact {
    lines := lines_insertLines_min index indent fragment page
    length := length_lines_insertLines index indent fragment page
    appended := fun hend => lines_insertLines_of_length_le indent fragment page hend
    restored := withoutLines_insertLines index indent fragment page }

end

/-- Carriage returns stay with their lines, the new line gets none, and the empty last line of
    a page that ends in a line feed stays the last one. -/
example :
    splice? "import a;\r\n\r\n".toList (.line 1 2) "b\n".toList
      = some "import a;\r\n  b\n  \n\r\n".toList := by
  decide

end HelpWiring
