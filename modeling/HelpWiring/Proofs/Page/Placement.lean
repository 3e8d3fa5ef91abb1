import HelpWiring.Proofs.Page.Closing
import HelpWiring.Proofs.Page.Lines
import HelpWiring.Proofs.Page.Signs

/-!
# Steps on a Page Taken Apart

Once a page is taken apart where a fragment goes in, a step is a matter of its
parts: the rows above, the fragment as rows, and the text below for new lines,
and the text in front, the popup element, and the closing lines for the element.
What a step does to the guards and to the place of the closing lines is said
here for such pages.

## Main definitions

* `Kind.rows`: A fragment as rows of a page.

## Theorems

* `add_rows`, `add_popup`: A step on a page taken apart.
* `harmless_imports`, `harmless_hook`: New lines do not close a page.
* `popupSlot_rows`: The closing lines below the rows of a fragment.
* `closed_above_or_below`: They do not begin in such a row.
* `walled_rows`, `walled_popup`: Fragments come between blanks.
-/

namespace HelpWiring

/-- A fragment as rows of a page, behind some spaces each. -/
def Kind.rows (kind : Kind) (indent : Nat) (tag : Text) : Text :=
  Text.rows ((kind.text tag).lines.map (indented indent))

theorem rows_importLines : Text.rows importLines.lines = importRows := by decide

theorem unindented_importLines : importLines.lines.map (indented 0) = importLines.lines := by decide

theorem rows_imports (tag : Text) : Kind.imports.rows 0 tag = importRows := by
  rw [Kind.rows, Kind.text, unindented_importLines, rows_importLines]

theorem rows_hook {tag : Text} (ht : '\n' ∉ tag) (indent : Nat) :
    Kind.hook.rows indent tag = hookRow indent tag := by
  have hlines : (hookLine tag).lines = [hookLine tag] := Text.cut_of_notMem (notMem_hookLine ht)
  rw [Kind.rows, Kind.text, hlines]
  rfl

/-- New lines go between rows and what follows. -/
theorem Page.add_rows {front : List Text} {rest tag : Text} {kind : Kind} {indent : Nat}
    (hfront : ∀ line ∈ front, '\n' ∉ line)
    (hno : hasFragment (Text.rows front ++ rest) kind tag = false)
    (hslot : findSlot (Text.rows front ++ rest) kind = .ok (.line front.length indent)) :
    Page.add (Text.rows front ++ rest) kind tag
      = (Text.rows front ++ (kind.rows indent tag ++ rest), .added) :=
  Page.add_of_slot hno hslot (congrArg some (insertLines_rows hfront indent (kind.text tag) rest))

/-- The popup element goes in front of the closing lines. -/
theorem Page.add_popup {a b tag : Text} (hno : hasFragment (a ++ b) .component tag = false)
    (hslot : popupSlot (a ++ b) = .ok (.offset (octets a))) :
    Page.add (a ++ b) .component tag = (a ++ (popupElement tag ++ b), .added) :=
  Page.add_of_slot hno hslot (insertAfter_append (popupElement tag) a b)

/-- Rows come between blanks, as they start behind a line feed and end in one. -/
theorem walled_rows (front : List Text) {block : Text} (h : block.getLast? = some '\n')
    (rest : Text) : Walled (Text.rows front) block rest where
  torn := Text.gapped_rows front rest
  front := Text.gapped_rows front _
  back := Text.Gapped.of_getLast? (a := []) h (by decide)

theorem walled_importRows (front : List Text) (rest : Text) :
    Walled (Text.rows front) importRows rest :=
  walled_rows front (by decide) rest

theorem walled_hookRow (front : List Text) (indent : Nat) (tag rest : Text) :
    Walled (Text.rows front) (hookRow indent tag) rest :=
  walled_rows front (by rw [hookRow, List.getLast?_concat]) rest

/-- The popup element comes between blanks, its own and that of the closing lines. -/
theorem walled_popup {a b : Text} (tag : Text) (hb : closesPage b = true) :
    Walled a (popupElement tag) b := by
  rcases blank_of_closesPage hb with ⟨c, rest, rfl, hc⟩
  refine ⟨Text.Gapped.of_head? (b := [c]) rfl hc, ?_, Text.Gapped.of_head? (b := [c]) rfl hc⟩
  rw [popupElement_parts, List.append_assoc]
  exact Text.Gapped.of_head? (c := '\n') rfl (by decide)

theorem harmless_imports : Harmless ('\n' :: importLines) := by
  have hstart : '\n' :: importLines = ['\n'] ++ 'i' :: importLines.tail := by decide
  have hlast : ('\n' :: importLines).getLast? = some ';' := by decide
  have htag : '<' ∉ '\n' :: importLines := by decide
  refine ⟨⟨['\n'], 'i', importLines.tail, hstart, Text.isGap_feed, by decide, by decide⟩, ?_, ?_⟩
  · exact fun c _ h => htag (h.mem (List.mem_cons_of_mem c List.mem_cons_self))
  · intro c hc
    rw [hlast, Option.mem_some] at hc
    subst hc
    decide

theorem harmless_hook {tag : Text} (ht : tag.isSolid = true) (indent : Nat) :
    Harmless ('\n' :: indented indent (hookLine tag)) := by
  have hcall : ∀ c, isBlank c = true → c ∉ hookCall '\'' tag ++ [';'] := by
    intro c hc hmem
    rcases List.mem_append.1 hmem with hmem | hmem
    · exact Text.notMem_of_isSolid (isSolid_hookCall (by decide) ht) hc hmem
    · rw [List.mem_singleton.1 hmem] at hc
      exact absurd hc (by decide)
  refine ⟨⟨'\n' :: List.replicate indent ' ', 'c', _, rfl, ⟨List.cons_ne_nil _ _, ?_⟩, by decide,
    by decide⟩, ?_, ?_⟩
  · intro c hc
    rcases List.mem_cons.1 hc with rfl | hc
    · decide
    · rw [List.eq_of_mem_replicate hc]
      decide
  · -- there is a `<` at most in the call, which has no blanks and starts with a letter
    intro c hc hpair
    rw [hookLine_eq, indented, ← List.append_assoc, ← List.cons_append] at hpair
    have hfront : '<' ∉ '\n' :: (List.replicate indent ' ' ++ "const helpPopup = ".toList) := by
      intro hmem
      rcases List.mem_cons.1 hmem with hmem | hmem
      · exact absurd hmem (by decide)
      · exact notMem_hookRow_front (by decide) (by decide) indent hmem
    rcases Text.pair_infix_append hpair with h | h | h
    · exact hfront (h.mem (List.mem_cons_of_mem c List.mem_cons_self))
    · exact hcall c hc (h.mem List.mem_cons_self)
    · have hhead : (hookCall '\'' tag ++ [';']).head? = some 'u' := rfl
      rw [hhead] at h
      exact absurd h (by decide)
  · intro c hc
    rw [hookLine_eq, indented, ← List.cons_append, ← List.append_assoc, ← List.append_assoc,
      List.getLast?_concat, Option.mem_some] at hc
    subst hc
    decide

/-- What closes the page is pushed down by rows above it. If they come first, the line feed
    behind them could be what was missing for the page to be closed there. -/
theorem popupSlot_rows {front : List Text} {body c b : Text} (hbody : Harmless ('\n' :: body))
    (hfront : front = [] → closesPage ('\n' :: (c ++ b)) = false)
    (h : popupSlot (Text.rows front ++ (c ++ b)) = .ok (.offset (octets (Text.rows front ++ c)))) :
    popupSlot (Text.rows front ++ ((body ++ ['\n']) ++ (c ++ b)))
      = .ok (.offset (octets (Text.rows front ++ ((body ++ ['\n']) ++ c)))) := by
  cases front with
  | nil =>
      have hassoc : Text.rows [] ++ ((body ++ ['\n']) ++ (c ++ b)) = (body ++ '\n' :: c) ++ b := by
        simp only [Text.rows, List.append_assoc, List.cons_append, List.nil_append]
      have hplace : Text.rows [] ++ ((body ++ ['\n']) ++ c) = body ++ '\n' :: c := by
        simp only [Text.rows, List.append_assoc, List.cons_append, List.nil_append]
      rw [← List.append_assoc] at h
      rcases popupSlot_append_iff.1 h with ⟨hb, hnone⟩
      rw [hassoc, hplace, popupSlot_append_iff]
      refine ⟨hb, fun s hne hs => ?_⟩
      rcases Text.suffix_append_cases hs with hs | ⟨r, hr, hrbody, rfl⟩
      · rcases List.suffix_cons_iff.1 hs with rfl | hs
        · exact hfront rfl
        · exact hnone s hne hs
      · rw [List.append_assoc]
        exact hbody.not_closesPage hr (hrbody.trans (List.suffix_cons '\n' body))
  | cons line more =>
      -- the line feed behind the new lines is as good as the one in front of them
      have hrows := List.cons_ne_nil line more
      have hmoved := popupSlot_insert (a := Text.unlines (line :: more)) (c := '\n' :: c) (b := b)
        hbody
      rw [Text.rows_feed hrows]
      rw [Text.rows_eq_unlines hrows] at h ⊢
      simp only [List.append_assoc, List.cons_append, List.nil_append] at h hmoved ⊢
      exact hmoved h

/-- What closes a page does not begin in a row that neither closes it nor lets it be closed across
    it. It begins in the rows above, and then the page is closed there, or behind the row. -/
theorem closed_above_or_below {lines : List Text} {body below a b : Text}
    (hbody : Harmless ('\n' :: body)) (hclosed : closesPage b = true)
    (heq : a ++ b = Text.rows lines ++ ((body ++ ['\n']) ++ below)) :
    (∃ d, Text.rows lines = a ++ (d ++ ['\n']) ∧ closesPage (d ++ ['\n']) = true)
      ∨ Text.rows lines ++ body <+: a := by
  have heq : (Text.rows lines ++ body) ++ '\n' :: below = a ++ b := by
    rw [heq]
    simp only [List.append_assoc, List.cons_append, List.nil_append]
  rcases List.append_eq_append_iff.1 heq with ⟨m, rfl, -⟩ | ⟨m, hm, rfl⟩
  · exact Or.inr (List.prefix_append _ m)
  · by_cases hne : m = []
    · have hall : Text.rows lines ++ body = a := by rw [hm, hne, List.append_nil]
      exact Or.inr (hall ▸ List.prefix_rfl)
    · rcases Text.suffix_append_cases ⟨a, hm.symm⟩ with hin | ⟨r, hr, ⟨z, hz⟩, rfl⟩
      · -- it would begin in the new row
        rw [hbody.not_closesPage hne (hin.trans (List.suffix_cons '\n' body))] at hclosed
        exact absurd hclosed Bool.false_ne_true
      · -- it ends above the new row, as it cannot go on across it
        rcases Text.exists_feed_of_rows hz.symm hr with ⟨d, rfl⟩
        have hplace : z = a := by
          rw [← hz, List.append_assoc] at hm
          exact List.append_cancel_right hm
        have hacross : ((d ++ ['\n']) ++ body) ++ '\n' :: below
            = d ++ (('\n' :: body) ++ '\n' :: below) := by
          simp only [List.append_assoc, List.cons_append, List.nil_append]
        rw [hacross] at hclosed
        refine Or.inl ⟨d, by rw [← hplace, hz], ?_⟩
        exact closesPage_append (closesPage_of_bars (hbody.bars.append _) hclosed) _

end HelpWiring
