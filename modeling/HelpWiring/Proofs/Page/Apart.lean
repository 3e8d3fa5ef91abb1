import HelpWiring.Proofs.Page.Swap

/-!
# Where the Two Orders Differ

The imports or the hook call, and the popup element, may end up in other places
if they go in in the other order. Then the texts differ, for what was put in can
be found in a text: only one line has the hook call, and only the element has its
key. Take both out, and what is left is known as well as the places where they
were.

So from one text for both orders it can be told how they went in. The element is
where it would be without the new lines, and these are next to the line that they
were put next to. That is all that `Page.put_imports_popup` and
`Page.put_hook_popup` ask for.

## Theorems

* `split_unique`: A list is parted at its only element of some kind.
* `rows_hook_inj`, `popup_inj`: The hook call and the popup element can be taken out.
* `rows_and_popup`: Both in one text.
* `siteStays_of_comm`, `importWhole_of_apart`: What one text for both orders says.
-/

namespace HelpWiring

/-- A list is parted at its only element of some kind. -/
theorem split_unique {α : Type} {p : α → Prop} {as bs cs ds : List α} {x y : α}
    (has : ∀ a ∈ as, ¬ p a) (hbs : ∀ b ∈ bs, ¬ p b) (hy : p y)
    (h : as ++ x :: bs = cs ++ y :: ds) : as = cs ∧ x = y ∧ bs = ds := by
  rcases List.append_eq_append_iff.1 h with ⟨m, rfl, hm⟩ | ⟨m, rfl, hm⟩
  · cases m with
    | nil => exact ⟨(List.append_nil as).symm, List.cons.inj hm⟩
    | cons z m =>
        refine absurd hy (hbs y ?_)
        rw [(List.cons.inj hm).2]
        exact List.mem_append_right m List.mem_cons_self
  · cases m with
    | nil => exact ⟨List.append_nil cs, (List.cons.inj hm).1.symm, (List.cons.inj hm).2.symm⟩
    | cons z m =>
        obtain rfl : y = z := (List.cons.inj hm).1
        exact absurd hy (has y (List.mem_append_right cs List.mem_cons_self))

namespace Page

section

variable {tag : Text}

/-- A part of a text without a fragment does not have it either. -/
theorem not_hasFragment_of_infix {s t : Text} {kind : Kind} (h : s <:+: t)
    (hno : hasFragment t kind tag = false) : hasFragment s kind tag = false := by
  rw [hasFragment_eq_false_iff] at hno ⊢
  exact fun sign hsign hs => hno sign hsign (hs.trans h)

theorem not_hasFragment_of_mem_lines {page line : Text} {kind : Kind}
    (hno : hasFragment page kind tag = false) (h : line ∈ page.lines) :
    hasFragment line kind tag = false := by
  have hglue : line <:+: Text.glue '\n' page.lines := Text.infix_glue h
  rw [Text.lines, Text.glue_cut] at hglue
  exact not_hasFragment_of_infix hglue hno

theorem lines_hookRow (hfeed : '\n' ∉ tag) {lines : List Text}
    (hlines : ∀ line ∈ lines, '\n' ∉ line) (indent : Nat) (below : Text) :
    (Text.rows lines ++ (hookRow indent tag ++ below)).lines
      = lines ++ indented indent (hookLine tag) :: below.lines := by
  have hrow := notMem_indented (by decide) (notMem_hookLine hfeed) indent
  rw [Text.lines_rows_append hlines, hookRow, List.append_assoc, List.singleton_append,
    Text.lines, Text.cut_append_cons hrow]

/-- The hook call can be taken out of a text. -/
theorem rows_hook_inj (ht : tag.isSolid = true) {lines lines' : List Text} {indent indent' : Nat}
    {below below' : Text} (hlines : ∀ line ∈ lines, '\n' ∉ line)
    (hlines' : ∀ line ∈ lines', '\n' ∉ line)
    (hno : hasFragment (Text.rows lines ++ below) .hook tag = false)
    (h : Text.rows lines ++ (hookRow indent tag ++ below)
      = Text.rows lines' ++ (hookRow indent' tag ++ below')) :
    lines = lines' ∧ indent = indent' ∧ below = below' := by
  have hfeed : '\n' ∉ tag := Text.notMem_of_isSolid ht (by decide)
  have hother : ∀ line ∈ lines ++ below.lines, ¬ hasFragment line .hook tag = true := by
    intro line hline
    rw [Bool.not_eq_true]
    refine not_hasFragment_of_mem_lines hno ?_
    rwa [Text.lines_rows_append hlines]
  have hcall : hasFragment (indented indent' (hookLine tag)) .hook tag = true := by
    have htext : Kind.hook.text tag <:+: indented indent' (hookLine tag) :=
      List.infix_append_right
    exact hasFragment_of_infix htext
  have hsame := congrArg Text.lines h
  rw [lines_hookRow hfeed hlines, lines_hookRow hfeed hlines'] at hsame
  rw [List.forall_mem_append] at hother
  rcases split_unique hother.1 hother.2 hcall hsame with ⟨hfront, hrow, hbelow⟩
  have hlength := congrArg List.length hrow
  rw [indented, indented, List.length_append, List.length_append, List.length_replicate,
    List.length_replicate] at hlength
  exact ⟨hfront, by omega, Text.eq_of_lines hbelow⟩

/-- The lines of the popup element, its key apart. -/
theorem popupLines_parts (tag : Text) : ∃ above key below, popupLines tag = above ++ key :: below
    ∧ keyAttribute '"' tag <:+: key ∧ ∀ line ∈ above ++ below, 'K' ∉ line := by
  have hquiet : ∀ line ∈ ["      \x7b/* Help Popup */\x7d".toList, "      <HelpPopup".toList,
      "        isOpen=\x7bhelpPopup.isOpen\x7d".toList,
      "        onClose=\x7bhelpPopup.closePopup\x7d".toList, "      />".toList], 'K' ∉ line := by
    decide
  exact ⟨(popupLines tag).take 2, _, (popupLines tag).drop 3, rfl, List.infix_append_right, hquiet⟩

/-- The popup element can be taken out of the lines of a text. -/
theorem popup_lines_inj {front front' back back' : List Text} {x x' y y' : Text}
    (hno : ∀ line ∈ front ++ (x ++ y) :: back, hasFragment line .component tag = false)
    (h : front ++ x :: (popupLines tag ++ y :: back)
      = front' ++ x' :: (popupLines tag ++ y' :: back')) :
    front = front' ∧ x = x' ∧ y = y' ∧ back = back' := by
  rcases popupLines_parts tag with ⟨above, key, below, hlines, hkey, hquiet⟩
  have hassoc : ∀ (f b : List Text) (u v : Text), f ++ u :: (above ++ key :: below ++ v :: b)
      = ((f ++ [u]) ++ above) ++ key :: (below ++ v :: b) := by
    intro f b u v
    simp only [List.append_assoc, List.cons_append, List.nil_append]
  have hthere : hasFragment key .component tag = true :=
    hasFragment_iff.2 ⟨_, List.mem_cons_self, hkey⟩
  have hnew : ∀ line ∈ above ++ below, ¬ hasFragment line .component tag = true := by
    intro line hline hhas
    rcases hasFragment_iff.1 hhas with ⟨sign, hsign, hinfix⟩
    rcases mem_signs_component hsign with ⟨quote, -, rfl⟩
    exact not_infix_of_mem (mem_K_keyAttribute quote tag) (hquiet line hline) hinfix
  have hold : (∀ line ∈ front, ¬ hasFragment line .component tag = true)
      ∧ ¬ hasFragment x .component tag = true ∧ ¬ hasFragment y .component tag = true
      ∧ ∀ line ∈ back, ¬ hasFragment line .component tag = true := by
    rw [List.forall_mem_append, List.forall_mem_cons] at hno
    simp only [Bool.not_eq_true]
    exact ⟨hno.1, not_hasFragment_of_infix List.infix_append_left hno.2.1,
      not_hasFragment_of_infix List.infix_append_right hno.2.1, hno.2.2⟩
  rw [List.forall_mem_append] at hnew
  rw [hlines, hassoc, hassoc] at h
  have habove : ∀ line ∈ front ++ [x] ++ above, ¬ hasFragment line .component tag = true := by
    rw [List.forall_mem_append, List.forall_mem_append, List.forall_mem_singleton]
    exact ⟨⟨hold.1, hold.2.1⟩, hnew.1⟩
  have hbelow : ∀ line ∈ below ++ y :: back, ¬ hasFragment line .component tag = true := by
    rw [List.forall_mem_append, List.forall_mem_cons]
    exact ⟨hnew.2, hold.2.2⟩
  rcases split_unique habove hbelow hthere h with ⟨hfront, -, hback⟩
  rcases List.append_inj' (List.append_cancel_right hfront) rfl with ⟨rfl, hx⟩
  rcases List.cons.inj (List.append_cancel_left hback) with ⟨hy, hmore⟩
  exact ⟨rfl, (List.cons.inj hx).1, hy, hmore⟩

/-- The popup element can be taken out of a text. -/
theorem popup_inj (ht : tag.isSolid = true) {a a' b b' : Text}
    (hno : hasFragment (a ++ b) .component tag = false)
    (h : a ++ (popupElement tag ++ b) = a' ++ (popupElement tag ++ b')) : a = a' ∧ b = b' := by
  have hfeed : '\n' ∉ tag := Text.notMem_of_isSolid ht (by decide)
  rcases Text.exists_cut_concat '\n' a with ⟨front, x, ha⟩
  rcases Text.exists_cut_cons '\n' b with ⟨y, back, hb⟩
  rcases Text.exists_cut_concat '\n' a' with ⟨front', x', ha'⟩
  rcases Text.exists_cut_cons '\n' b' with ⟨y', back', hb'⟩
  rcases lines_popup hfeed ha hb with ⟨hpage, hnew⟩
  have hsame := congrArg Text.lines h
  rw [hnew, (lines_popup hfeed ha' hb').2] at hsame
  have hold : ∀ line ∈ front ++ (x ++ y) :: back, hasFragment line .component tag = false :=
    fun line hline => not_hasFragment_of_mem_lines hno (hpage ▸ hline)
  rcases popup_lines_inj hold hsame with ⟨rfl, rfl, rfl, rfl⟩
  exact ⟨Text.eq_of_lines (ha.trans ha'.symm), Text.eq_of_lines (hb.trans hb'.symm)⟩

/-- The first line of the popup element is not the hook site. -/
theorem hookSlot_ne_popupLine (ht : tag.isSolid = true) {lines : List Text} {b : Text}
    (indent : Nat) (hlines : ∀ line ∈ lines, '\n' ∉ line) :
    hookSlot (Text.rows lines ++ (Text.rows (popupLines tag) ++ b))
      ≠ .ok (.line lines.length indent) := by
  have hfeed : '\n' ∉ tag := Text.notMem_of_isSolid ht (by decide)
  intro hslot
  rcases hookSite_of_line hslot with ⟨start, line, hsite, -⟩
  have hhere := hsite.here
  rw [Text.lines_rows_append hlines, Text.lines_rows_append (notMem_popupLines hfeed),
    List.getElem?_append_right (Nat.le_refl _), Nat.sub_self,
    List.getElem?_append_left (Nat.succ_pos _)] at hhere
  have hno := isHookSite_popupLine ht (List.mem_of_getElem? hhere)
  rw [hsite.site] at hno
  exact Bool.true_eq_false.mp hno

/-- Rows with the hook call below them, and the popup element in one text. The element is in the
    rows, or behind the call. -/
theorem rows_and_popup (ht : tag.isSolid = true) {lines lines' : List Text} {indent indent' : Nat}
    {below below' a b : Text} (hlines : ∀ line ∈ lines, '\n' ∉ line)
    (hlines' : ∀ line ∈ lines', '\n' ∉ line)
    (hno : hasFragment (Text.rows lines' ++ below') .hook tag = false)
    (hslot : hookSlot (Text.rows lines' ++ below') = .ok (.line lines'.length indent'))
    (hclosed : closesPage b = true)
    (hparts : a ++ b = Text.rows lines ++ (hookRow indent tag ++ below))
    (h : Text.rows lines' ++ (hookRow indent' tag ++ below') = a ++ (popupElement tag ++ b)) :
    indent' = indent
      ∧ ((∃ d, closesPage (d ++ ['\n']) = true ∧ Text.rows lines = a ++ (d ++ ['\n'])
          ∧ (∀ t, a ++ (popupElement tag ++ ((d ++ ['\n']) ++ t)) = Text.rows lines' ++ t)
          ∧ lines'.length = lines.length + 7
          ∧ b = (d ++ ['\n']) ++ (hookRow indent tag ++ below) ∧ below' = below)
        ∨ ∃ c, a = Text.rows lines ++ (hookRow indent tag ++ c) ∧ below = c ++ b
          ∧ lines' = lines ∧ below' = c ++ (popupElement tag ++ b)) := by
  rcases closed_above_or_below (harmless_hook ht indent) hclosed hparts with
    ⟨d, hrows, hd⟩ | ⟨m, hm⟩
  · -- the element is in the rows, and these are rows with it as well
    rw [hrows, List.append_assoc a] at hparts
    have hb := List.append_cancel_left hparts
    have hfeed : '\n' ∉ tag := Text.notMem_of_isSolid ht (by decide)
    rcases exists_rows_popup hfeed hlines hrows with ⟨more, hassoc, hmore, hpushed⟩
    rw [hb, hassoc] at h
    rcases rows_hook_inj ht hlines' hmore hno h with ⟨rfl, rfl, rfl⟩
    exact ⟨rfl, Or.inl ⟨d, hd, hrows, hassoc, hpushed, hb, rfl⟩⟩
  · have hb : m ++ b = '\n' :: below := by
      rw [← hm] at hparts
      simp only [hookRow, List.append_assoc, List.singleton_append] at hparts
      exact List.append_cancel_left (List.append_cancel_left hparts)
    cases m with
    | nil =>
        -- then the element would come right behind the call
        exfalso
        rw [List.append_nil] at hm
        have hrow : a ++ (popupElement tag ++ b) = Text.rows lines
            ++ (hookRow indent tag ++ (Text.rows (popupLines tag) ++ b)) := by
          rw [← hm, popupElement_eq_rows]
          simp only [hookRow, List.append_assoc, List.cons_append, List.nil_append]
        rcases rows_hook_inj ht hlines' hlines hno (h.trans hrow) with ⟨rfl, -, rfl⟩
        exact hookSlot_ne_popupLine ht indent' hlines hslot
    | cons e c =>
        obtain ⟨rfl, rfl⟩ := List.cons.inj hb
        have ha : a = Text.rows lines ++ (hookRow indent tag ++ c) := by
          rw [← hm]
          simp only [hookRow, List.append_assoc, List.singleton_append]
        have hassoc : a ++ (popupElement tag ++ b)
            = Text.rows lines ++ (hookRow indent tag ++ (c ++ (popupElement tag ++ b))) := by
          rw [ha]
          simp only [List.append_assoc]
        rcases rows_hook_inj ht hlines' hlines hno (h.trans hassoc) with ⟨rfl, rfl, rfl⟩
        exact ⟨rfl, Or.inr ⟨c, ha, rfl, rfl, rfl⟩⟩

/-- If two texts are the same once the hook call and the popup element are in, of which the first
    text has the element already, the one step adds the element and the other two add the call or
    do not. -/
theorem added_of_same (ht : tag.isSolid = true) {s t : Text}
    (hguard : hasFragment s .hook tag = hasFragment t .hook tag)
    (hhas : hasFragment s .component tag = true) (hno : hasFragment t .component tag = false)
    (h : put s tag .hook = put (put t tag .hook) tag .component) :
    (add (put t tag .hook) .component tag).2 = .added
      ∧ ((add s .hook tag).2 = .added ↔ (add t .hook tag).2 = .added) := by
  rw [added_iff ht, added_iff ht, added_iff ht, ← h, hguard, h,
    hasFragment_put_of_ne ht .hook .component (by decide) (by decide),
    hasFragment_put_of_ne ht .component .hook (by decide) (by decide), ← h]
  exact ⟨⟨hno, hasFragment_add (Or.inr ht) hhas .hook tag⟩, Iff.rfl⟩

/-- Two such texts if the call is added: then the second is the first without the element. -/
theorem parts_of_same (ht : tag.isSolid = true) {s t : Text}
    (hguard : hasFragment s .hook tag = hasFragment t .hook tag)
    (hhas : hasFragment s .component tag = true) (hno : hasFragment t .component tag = false)
    (hhook : (add t .hook tag).2 = .added)
    (h : put s tag .hook = put (put t tag .hook) tag .component) :
    ∃ lines indent below a b, (∀ line ∈ lines, '\n' ∉ line) ∧ t = Text.rows lines ++ below
      ∧ hookSlot t = .ok (.line lines.length indent) ∧ Text.FirstPlace closesPage a b
      ∧ ((∃ d, closesPage (d ++ ['\n']) = true ∧ Text.rows lines = a ++ (d ++ ['\n'])
          ∧ b = (d ++ ['\n']) ++ (hookRow indent tag ++ below)
          ∧ s = a ++ (popupElement tag ++ ((d ++ ['\n']) ++ below))
          ∧ hookSlot s = .ok (.line (lines.length + 7) indent))
        ∨ ∃ c, a = Text.rows lines ++ (hookRow indent tag ++ c) ∧ below = c ++ b
          ∧ s = (Text.rows lines ++ c) ++ (popupElement tag ++ b)
          ∧ hookSlot s = .ok (.line lines.length indent)) := by
  have hfeed : '\n' ∉ tag := Text.notMem_of_isSolid ht (by decide)
  rcases added_of_same ht hguard hhas hno h with ⟨hpopup, hiff⟩
  rcases exists_rows_of_hook_added hfeed hhook with
    ⟨lines, indent, below, hlines, rfl, hslot, hput⟩
  rcases exists_rows_of_hook_added hfeed (hiff.2 hhook) with
    ⟨lines', indent', below', hlines', rfl, hslot', hput'⟩
  rcases exists_parts_of_popup_added hpopup with ⟨a, b, hparts, hfirst, -, hlast⟩
  have hmissing := (added_inversion (Prod.ext rfl (hiff.2 hhook))).1
  rw [hput', hparts, hlast] at h
  rcases rows_and_popup ht hlines hlines' hmissing hslot' hfirst.1 (hparts.symm.trans hput) h with
    ⟨rfl, ⟨d, hd, hrows, hassoc, hpushed, hb, rfl⟩ | ⟨c, ha, hbelow, rfl, rfl⟩⟩
  · rw [hpushed] at hslot'
    exact ⟨lines, _, _, a, b, hlines, rfl, hslot, hfirst,
      Or.inl ⟨d, hd, hrows, hb, (hassoc _).symm, hslot'⟩⟩
  · refine ⟨_, _, _, a, b, hlines, rfl, hslot, hfirst, Or.inr ⟨c, ha, hbelow, ?_, hslot'⟩⟩
    simp only [List.append_assoc]

/-- If the hook call and the popup element end up the same in either order, the hook site is
    still found. -/
theorem siteStays_of_comm (ht : tag.isSolid = true) {page : Text}
    (hpopup : (add page .component tag).2 = .added) (hhook : (add page .hook tag).2 = .added)
    (h : put (put page tag .component) tag .hook = put (put page tag .hook) tag .component) :
    SiteStays page := by
  rintro index indent front back rfl hslot hclosed
  have hfirst := popupSlot_append_iff.1 hclosed
  rcases (added_iff ht).1 hpopup with ⟨hno, hhas⟩
  have hguard := hasFragment_put_of_ne ht .hook .component (by decide) (by decide)
    (front ++ back)
  rcases parts_of_same ht hguard hhas hno hhook h with
    ⟨lines, indent', below, a, b, hlines, hpage, hline, hplace, hcases⟩
  rw [hslot, Except.ok.injEq, Slot.line.injEq] at hline
  rcases hline with ⟨rfl, rfl⟩
  rw [put_popup hno hfirst] at hcases
  rcases hcases with ⟨d, hd, hrows, rfl, hsame, hslot'⟩ | ⟨c, rfl, rfl, hsame, hslot'⟩
  · -- the closing lines are among the lines above the hook site
    rcases popup_inj ht hno hsame with ⟨rfl, rfl⟩
    right
    constructor
    · have htake : (front ++ ((d ++ ['\n']) ++ below)).lines.take lines.length = lines := by
        rw [hpage, Text.lines_rows_append hlines, List.take_left]
      rw [htake, hclosed, hrows, popupSlot_append_iff]
      refine ⟨hd, fun r hr hfront => Bool.eq_false_iff.2 fun hcloses => ?_⟩
      have hearlier := closesPage_append hcloses (hookRow indent tag ++ below)
      rw [List.append_assoc, hplace.2 r hr hfront] at hearlier
      exact Bool.false_ne_true hearlier
    · rcases hookSite_of_line hslot with ⟨start, line, hsite, rfl⟩
      have hlength := Text.count_rows hlines
      rw [hrows, List.count_append, List.count_append, List.count_singleton_self] at hlength
      exact (hookSlot_popup_below ht hfirst.1 hsite (by omega)).1 hslot'
  · -- they are below it
    rcases popup_inj ht hno hsame with ⟨rfl, rfl⟩
    left
    constructor
    · have hlt : lines.length < (Text.rows lines ++ c).lines.length := by
        have hne : c.lines ≠ [] := Text.cut_ne_nil '\n' c
        rw [Text.lines_rows_append hlines, List.length_append]
        exact Nat.lt_add_of_pos_right (List.length_pos_of_ne_nil hne)
      have hsplit : ((Text.rows lines ++ c) ++ (popupElement tag ++ back)).lines
          = (Text.rows lines ++ c).lines ++ (Text.rows (popupLines tag) ++ back).lines := by
        rw [popupElement_eq_rows, List.cons_append, Text.lines_append_feed]
      rw [hslot]
      exact hookSlot_of_lines hsplit (List.append_nil _).symm hslot' hlt
    · intro hnil
      obtain rfl : lines = [] := List.eq_nil_of_length_eq_zero hnil
      refine hplace.2 ('\n' :: c) (List.cons_ne_nil _ _) ⟨indented indent (hookLine tag), ?_⟩
      simp only [Text.rows, hookRow, List.append_assoc, List.nil_append, List.singleton_append]

/-- If the imports and the popup element, in either order, end up the same once the hook call is
    in, one text is the other without the element. -/
theorem exists_apart (ht : tag.isSolid = true) {page : Text}
    (hpopup : (add page .component tag).2 = .added)
    (h : put (put (put page tag .component) tag .imports) tag .hook
      = put (put (put page tag .imports) tag .hook) tag .component) :
    ∃ a b, put (put page tag .component) tag .imports = a ++ (popupElement tag ++ b)
      ∧ put page tag .imports = a ++ b := by
  rcases (added_iff ht).1 hpopup with ⟨hno, hhas⟩
  have hhas' := hasFragment_add (Or.inr ht) hhas .imports tag
  have hno' := (hasFragment_put_of_ne ht .component .imports (by decide) (by decide)
    page).trans hno
  have hguard : hasFragment (put (put page tag .component) tag .imports) .hook tag
      = hasFragment (put page tag .imports) .hook tag := by
    rw [hasFragment_put_of_ne ht _ _ (by decide) (by decide),
      hasFragment_put_of_ne ht _ _ (by decide) (by decide),
      hasFragment_put_of_ne ht _ _ (by decide) (by decide)]
  by_cases hhook : (add (put page tag .imports) .hook tag).2 = .added
  · rcases parts_of_same ht hguard hhas' hno' hhook h with
      ⟨lines, indent, below, a, b, -, htext, -, -, hcases⟩
    rcases hcases with ⟨d, -, hrows, -, hsame, -⟩ | ⟨c, -, rfl, hsame, -⟩
    · exact ⟨a, (d ++ ['\n']) ++ below, hsame, by rw [htext, hrows, List.append_assoc]⟩
    · exact ⟨Text.rows lines ++ c, b, hsame, by rw [htext, List.append_assoc]⟩
  · -- the two texts differ by the element alone
    rcases added_of_same ht hguard hhas' hno' h with ⟨hpopup', hiff⟩
    rw [put_of_not_added (mt hiff.1 hhook), put_of_not_added hhook] at h
    rw [put_of_not_added hhook] at hpopup'
    rcases exists_parts_of_popup_added hpopup' with ⟨a, b, htext, -, -, hput⟩
    exact ⟨a, b, by rw [h, htext, hput], htext⟩

/-- Behind an element that parts the first import line, the next one is further down, or it is
    what is left of that line in front of the element. -/
theorem importSlot_parted (ht : tag.isSolid = true) {top w back : Text} {slot : Slot}
    (hfeed : '\n' ∉ w) (hw : isImportLine w = false) (hback : ∀ c ∈ back.head?, c = '\n')
    (hends : EndsInImport (top ++ w))
    (hslot : importSlot (top ++ (popupElement tag ++ (w ++ back))) = .ok slot) :
    EndsInImport top ∨ ∃ more below, back = ('\n' :: more) ++ below
      ∧ (∀ c ∈ below.head?, c = '\n')
      ∧ EndsInImport (top ++ (popupElement tag ++ (w ++ '\n' :: more))) := by
  rcases hends with ⟨above, line, hlines, habove, -⟩
  rcases Text.exists_cut_concat '\n' top with ⟨front, x, htop⟩
  rcases lines_popup (Text.notMem_of_isSolid ht (by decide)) htop (Text.cut_of_notMem hfeed) with
    ⟨hpage, hnew⟩
  obtain ⟨rfl, -⟩ := List.append_inj' (hpage.symm.trans hlines) rfl
  by_cases hx : isImportLine x = true
  · exact Or.inl ⟨front, x, htop, habove, hx⟩
  right
  rcases EndsInImport.exists_parts hslot with ⟨front', below, hparts, hends, hbelow⟩
  have hnone : ∀ l ∈ (top ++ (popupElement tag ++ w)).lines, isImportLine l = false := by
    rw [hnew, List.forall_mem_append, List.forall_mem_cons, List.forall_mem_append,
      List.forall_mem_singleton, ← Bool.not_eq_true (isImportLine x)]
    exact ⟨habove, hx, fun l hl => isImportLine_popupLine ht hl, hw⟩
  -- so the first import line does not end in that text
  have hpast : ∀ m, top ++ (popupElement tag ++ w) = front' ++ m → below = m ++ back → False := by
    rintro m hm rfl
    have hhead : ∀ c ∈ m.head?, c = '\n' := by
      cases m with
      | nil => exact fun c hc => nomatch hc
      | cons d m => exact hbelow
    rcases EndsInImport.exists_below hhead with ⟨others, hothers⟩
    rcases hends with ⟨above, line, hlines, -, hline⟩
    rw [hm, hothers, hlines] at hnone
    have hno := hnone line (List.mem_append_left _ (List.mem_append_right _ List.mem_cons_self))
    rw [hline] at hno
    exact Bool.true_eq_false.mp hno
  have hparts : (top ++ (popupElement tag ++ w)) ++ back = front' ++ below := by
    rw [← hparts]
    simp only [List.append_assoc]
  rcases List.append_eq_append_iff.1 hparts with ⟨m, hm, rfl⟩ | ⟨m, hm, hbelow⟩
  · cases m with
    | nil => exact (hpast [] (by rw [hm, List.append_nil, List.append_nil]) rfl).elim
    | cons d m =>
        obtain rfl : d = '\n' := hback d rfl
        refine ⟨m, below, rfl, hbelow, ?_⟩
        rw [hm] at hends
        simp only [List.append_assoc] at hends
        exact hends
  · exact (hpast m hm hbelow).elim

/-- If the imports can be moved across a text that starts with a line feed, this names the
    hook. -/
theorem hookName_infix_of_moved {more below : Text}
    (h : importLines ++ ('\n' :: more ++ below) = more ++ ('\n' :: importLines ++ below)) :
    hookName <:+: more := by
  have hlines : importLines = (hookImport ++ [';']) ++ '\n' :: (popupImport ++ [';']) := by decide
  have hname : hookName <:+: hookImport ++ [';'] := Text.mentions_iff.1 (by decide)
  have hfirst : (hookImport ++ [';'])
        ++ '\n' :: ((popupImport ++ [';']) ++ '\n' :: (more ++ below))
      = importLines ++ ('\n' :: more ++ below) := by
    rw [hlines]
    simp only [List.append_assoc, List.cons_append]
  exact hname.trans (Text.prefix_of_feed (by decide) (hfirst.trans h)).isInfix

/-- If the imports go in with the element and without it, and one text is the other without the
    element, nothing is left of the first import line behind the element. -/
theorem eq_nil_of_apart (ht : tag.isSolid = true) {top w back a b : Text} (hfeed : '\n' ∉ w)
    (hclosed : closesPage (w ++ back) = true) (hback : ∀ c ∈ back.head?, c = '\n')
    (hends : EndsInImport (top ++ w)) (hno : hasFragment (a ++ b) .component tag = false)
    (hmissing : hasFragment ((top ++ w) ++ back) .imports tag = false)
    (hadded : (add (top ++ (popupElement tag ++ (w ++ back))) .imports tag).2 = .added)
    (hwith : put (top ++ (popupElement tag ++ (w ++ back))) tag .imports
      = a ++ (popupElement tag ++ b))
    (hwithout : put ((top ++ w) ++ back) tag .imports = a ++ b) : w = [] := by
  have hw := isImportLine_of_closesPage hclosed (List.prefix_append w back)
  rcases added_inversion (Prod.ext rfl hadded) with ⟨hmissing', slot, hslot, -⟩
  rw [put_imports_behind hends hback hmissing] at hwithout
  rcases importSlot_parted ht hfeed hw hback hends hslot with
    htop | ⟨more, below, rfl, hbelow, hends'⟩
  · -- the imports would be in front of the rest of the line
    have hhead : ∀ c ∈ (popupElement tag ++ (w ++ back)).head?, c = '\n' := by
      rw [popupElement_eq_rows]
      exact fun c hc => (Option.some.inj hc).symm
    have hassoc : top ++ ('\n' :: importLines ++ (popupElement tag ++ (w ++ back)))
        = (top ++ '\n' :: importLines) ++ (popupElement tag ++ (w ++ back)) := by
      rw [List.append_assoc]
    rw [put_imports_behind htop hhead hmissing', hassoc] at hwith
    rcases popup_inj ht hno hwith.symm with ⟨rfl, rfl⟩
    rw [List.append_assoc, List.append_assoc] at hwithout
    have hsame := List.append_cancel_left hwithout
    cases w with
    | nil => rfl
    | cons d w =>
        obtain rfl : d = '\n' := (List.cons.inj hsame).1
        exact absurd List.mem_cons_self hfeed
  · -- they would be further down, and what they name would be there as well
    exfalso
    have hassoc : ∀ t, top ++ (popupElement tag ++ (w ++ ('\n' :: more ++ t)))
        = (top ++ (popupElement tag ++ (w ++ '\n' :: more))) ++ t := fun t => by
      simp only [List.append_assoc]
    have hassoc' : ∀ t, (top ++ (popupElement tag ++ (w ++ '\n' :: more))) ++ t
        = top ++ (popupElement tag ++ ((w ++ '\n' :: more) ++ t)) := fun t => by
      simp only [List.append_assoc]
    rw [hassoc] at hmissing' hwith
    rw [put_imports_behind hends' hbelow hmissing', hassoc'] at hwith
    rcases popup_inj ht hno hwith.symm with ⟨rfl, rfl⟩
    rw [List.append_assoc, List.append_assoc] at hwithout
    have hsame := List.append_cancel_left (List.append_cancel_left hwithout)
    refine hasFragment_eq_false_iff.1 hmissing hookName List.mem_cons_self ?_
    refine (hookName_infix_of_moved (List.cons.inj hsame).2).trans ?_
    exact List.infix_append_of_infix_right (List.infix_append_of_infix_left
      (List.suffix_cons '\n' more).isInfix)

/-- Then the element does not part the first import line. -/
theorem importWhole_of_apart (ht : tag.isSolid = true) {page a b : Text}
    (hpopup : (add page .component tag).2 = .added) (himports : (add page .imports tag).2 = .added)
    (himports' : (add (put page tag .component) .imports tag).2 = .added)
    (hwith : put (put page tag .component) tag .imports = a ++ (popupElement tag ++ b))
    (hwithout : put page tag .imports = a ++ b) : ImportWhole page := by
  rintro i top rest rfl hslot hclosed hcount
  have hfirst := popupSlot_append_iff.1 hclosed
  have hno := (added_inversion (Prod.ext rfl hpopup)).1
  have hmissing := (added_inversion (Prod.ext rfl himports)).1
  have hno' := (hasFragment_put_of_ne ht .component .imports (by decide) (by decide)
    (top ++ rest)).trans hno
  rw [put_popup hno hfirst] at himports' hwith
  rw [hwithout] at hno'
  rcases EndsInImport.exists_parts hslot with ⟨front, back, hpage, hends, hback⟩
  have hheight : front.count '\n' = i := by
    rw [hpage, hends.importSlot_count hback, Except.ok.injEq, Slot.line.injEq] at hslot
    omega
  have hhead : rest ≠ [] → back = rest → rest.head? = some '\n' := by
    rintro hne rfl
    cases back with
    | nil => exact absurd rfl hne
    | cons c back => rw [List.head?_cons, hback c rfl]
  have hne : rest ≠ [] := by
    rintro rfl
    exact absurd hfirst.1 (by decide)
  rcases List.append_eq_append_iff.1 hpage with ⟨w, rfl, rfl⟩ | ⟨c, rfl, rfl⟩
  · have hfeed : '\n' ∉ w := by
      rw [List.count_append] at hheight
      exact List.count_eq_zero.1 (by omega)
    obtain rfl : w = [] := eq_nil_of_apart ht hfeed hfirst.1 hback hends hno'
      (List.append_assoc top w back ▸ hmissing) himports' hwith
      (List.append_assoc top w back ▸ hwithout)
    exact hhead hne rfl
  · have hfeed : '\n' ∉ c := by
      rw [List.count_append] at hcount
      exact List.count_eq_zero.1 (by omega)
    cases c with
    | nil => exact hhead hne rfl
    | cons d c =>
        obtain rfl : d = '\n' := hback d rfl
        exact absurd List.mem_cons_self hfeed

end

end Page

end HelpWiring
