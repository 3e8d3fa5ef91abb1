import HelpWiring.Proofs.Page.Steps

/-!
# The Popup Element and New Lines

The imports or the hook call, and the popup element, can go into a page in
either order, as long as they do not get in each other's way. New lines push the
closing lines down, and the element pushes down what is below it. The text is the
same in the end if each of the two ends up next to what it was put next to.

For the imports that takes a first import line that the element does not part.
Above the element the line stays where it is, and below it it is pushed down and
still the first one. For the hook call there are two ways. If the text in front
of the closing lines has the hook site, the element comes in below it. And if the
lines above the hook site hold the closing lines, the site is seven lines further
down, and it has to be in reach of the page function, unless that is pushed down
as well.

New lines that come first in the page are a case of their own: the line feed
behind them could be what was missing for a page to be closed there.

## Main definitions

* `EndsInImport`: A text that ends in its first import line.
* `Page.ImportWhole`: The closing lines do not part the first import line.
* `Page.SiteStays`: The hook site is still found once the popup element is in.

## Theorems

* `put_imports_behind`: The imports, behind the line that they go under.
* `hookSlot_popup_below`: The hook site below the popup element.
* `put_imports_popup`, `put_hook_popup`: The two orders.
-/

namespace HelpWiring

/-- A text that ends in its first import line. -/
def EndsInImport (t : Text) : Prop :=
  ∃ above line, t.lines = above ++ [line] ∧ (∀ l ∈ above, isImportLine l = false)
    ∧ isImportLine line = true

namespace EndsInImport

/-- Behind the last line there are other lines or none. -/
theorem exists_below {back : Text} (hback : ∀ c ∈ back.head?, c = '\n') :
    ∃ below, ∀ t : Text, (t ++ back).lines = t.lines ++ below := by
  cases back with
  | nil => exact ⟨[], fun t => by rw [List.append_nil, List.append_nil]⟩
  | cons c rest =>
      obtain rfl : c = '\n' := hback c rfl
      exact ⟨_, fun t => Text.lines_append_feed t rest⟩

/-- The imports go under the last line. -/
theorem importSlot {front back : Text} (h : EndsInImport front)
    (hback : ∀ c ∈ back.head?, c = '\n') :
    importSlot (front ++ back) = .ok (.line front.lines.length 0) := by
  rcases h with ⟨above, line, hlines, habove, hline⟩
  rcases exists_below hback with ⟨below, hbelow⟩
  have hfind : (front ++ back).lines.findIdx? isImportLine = some above.length := by
    rw [hbelow, hlines, List.append_assoc, List.findIdx?_append, List.findIdx?_eq_none_iff.2 habove,
      Option.none_or, List.singleton_append, List.findIdx?_cons, hline, if_pos rfl, Option.map_some,
      Nat.zero_add]
  rw [HelpWiring.importSlot, hfind, hlines, List.length_append, List.length_singleton]

/-- There are as many lines above them as line feeds in front, and one more. -/
theorem importSlot_count {front back : Text} (h : EndsInImport front)
    (hback : ∀ c ∈ back.head?, c = '\n') :
    HelpWiring.importSlot (front ++ back) = .ok (.line (front.count '\n' + 1) 0) := by
  rw [h.importSlot hback, Text.lines, Text.length_cut]

/-- A page is parted behind its first import line. -/
theorem exists_parts {page : Text} {slot : Slot} (h : HelpWiring.importSlot page = .ok slot) :
    ∃ front back, page = front ++ back ∧ EndsInImport front ∧ ∀ c ∈ back.head?, c = '\n' := by
  rcases importSlot_eq_ok h with ⟨i, -, hi⟩
  rcases List.findIdx?_eq_some_iff_getElem.1 hi with ⟨hlt, hline, hnone⟩
  have hglue : Text.unlines page.lines = page := Text.glue_cut '\n' page
  have hsplit : page.lines = (page.lines.take i ++ [page.lines[i]]) ++ page.lines.drop (i + 1) := by
    rw [List.append_assoc, List.singleton_append, List.getElem_cons_drop, List.take_append_drop]
  have hfeed : ∀ line ∈ page.lines.take i ++ [page.lines[i]], '\n' ∉ line := by
    intro line hline
    refine Text.notMem_of_mem_cut (t := page) ?_
    rw [show Text.cut '\n' page = _ from hsplit]
    exact List.mem_append_left _ hline
  have hne : page.lines.take i ++ [page.lines[i]] ≠ [] :=
    List.append_ne_nil_of_right_ne_nil _ (List.cons_ne_nil _ _)
  have hends : EndsInImport (Text.unlines (page.lines.take i ++ [page.lines[i]])) := by
    refine ⟨_, _, Text.cut_glue hne hfeed, fun l hl => ?_, hline⟩
    rcases List.mem_take_iff_getElem.1 hl with ⟨j, hj, rfl⟩
    exact Bool.eq_false_iff.2 (hnone j (by omega))
  by_cases hlast : page.lines.drop (i + 1) = []
  · refine ⟨_, [], ?_, hends, fun c hc => nomatch hc⟩
    rw [hlast, List.append_nil] at hsplit
    rw [List.append_nil, ← hsplit, hglue]
  · refine ⟨_, '\n' :: Text.unlines (page.lines.drop (i + 1)), ?_, hends, fun c hc => ?_⟩
    · rw [Text.unlines, Text.unlines, ← Text.glue_append hne hlast, ← hsplit]
      exact hglue.symm
    · exact (Option.some.inj hc).symm

end EndsInImport

namespace Page

/-- The imports, behind the line that they go under. -/
theorem put_imports_behind {front back tag : Text} (h : EndsInImport front)
    (hback : ∀ c ∈ back.head?, c = '\n')
    (hno : hasFragment (front ++ back) .imports tag = false) :
    put (front ++ back) tag .imports = front ++ ('\n' :: importLines ++ back) := by
  rcases EndsInImport.exists_below hback with ⟨below, hbelow⟩
  refine Text.eq_of_lines ?_
  rw [put, add_of_slot hno (h.importSlot hback) (congrArg some rfl), insertLines_lines, Kind.text,
    unindented_importLines, ← List.append_assoc front, hbelow, hbelow, Text.lines_append_feed,
    List.take_left, List.drop_left, List.append_assoc]

/-- The closing lines do not part the first import line: where they begin in it, they begin with
    its line feed. -/
def ImportWhole (page : Text) : Prop :=
  ∀ i front back, page = front ++ back → importSlot page = .ok (.line (i + 1) 0) →
    popupSlot page = .ok (.offset (octets front)) → front.count '\n' = i → back.head? = some '\n'

/-- The hook site is still found once the popup element is in, and in the same line of the page.
    Either the text in front of the closing lines has it, and if it is the first line of the page,
    the line feed of the hook call does not begin closing lines. Or the lines above it hold the
    closing lines, and the seven lines of the element do not push it out of reach. -/
def SiteStays (page : Text) : Prop :=
  ∀ index indent front back, page = front ++ back → hookSlot page = .ok (.line index indent) →
    popupSlot page = .ok (.offset (octets front)) →
    hookSlot front = hookSlot page ∧ (index = 0 → closesPage ('\n' :: page) = false)
    ∨ popupSlot (Text.rows (page.lines.take index)) = popupSlot page
      ∧ ∀ start, pageLine front = some start → index + 7 < start + hookReach

section

variable {tag : Text}

/-- The popup element goes in at the first place where the page is closed. -/
theorem put_popup {a b : Text} (hno : hasFragment (a ++ b) .component tag = false)
    (hfirst : Text.FirstPlace closesPage a b) :
    put (a ++ b) tag .component = a ++ (popupElement tag ++ b) := by
  rw [put, add_popup hno (popupSlot_append_iff.2 hfirst)]

/-- A page is parted where the popup element goes in. -/
theorem exists_parts_of_popup_added {page : Text} (h : (add page .component tag).2 = .added) :
    ∃ a b, page = a ++ b ∧ Text.FirstPlace closesPage a b
      ∧ hasFragment (a ++ b) .component tag = false
      ∧ put (a ++ b) tag .component = a ++ (popupElement tag ++ b) := by
  rcases added_inversion (Prod.ext rfl h) with ⟨hno, slot, hslot, -⟩
  rcases popupSlot_eq_ok hslot with ⟨a, b, rfl, rfl, -⟩
  have hfirst := popupSlot_append_iff.1 hslot
  exact ⟨a, b, rfl, hfirst, hno, put_popup hno hfirst⟩

/-- The popup element is taken for the imports only if its tag names the hook. -/
theorem not_hasFragment_imports_put_popup (ht : tag.isSolid = true) {page : Text}
    (hnamed : ¬ hookName <:+: tag) (hno : hasFragment page .imports tag = false) :
    hasFragment (put page tag .component) .imports tag = false := by
  rw [← Bool.not_eq_true] at hno ⊢
  rw [put, hasFragment_add_iff (Or.inr ht), Kind.text, hasFragment_imports_popupElement_iff]
  exact not_or.2 ⟨hno, fun h => hnamed h.2⟩

/-- Below the popup element, the first import line is still the first one. -/
theorem endsInImport_below_popup (ht : tag.isSolid = true) {a b c back : Text}
    (hb : closesPage b = true) (heq : b = c ++ back) (hfeed : '\n' ∈ c)
    (h : EndsInImport (a ++ c)) :
    EndsInImport (a ++ (popupElement tag ++ c))
      ∧ ∃ front line, c = front ++ '\n' :: line ∧ isImportLine line = true := by
  rcases h with ⟨above, line, hlines, habove, hline⟩
  rcases Text.exists_cut_concat '\n' a with ⟨front, x, ha⟩
  rcases Text.exists_cut_cons '\n' c with ⟨y, more, hc⟩
  rcases lines_popup (Text.notMem_of_isSolid ht (by decide)) ha hc with ⟨hpage, hnew⟩
  -- the last line of `c` is not the first one
  have hmore : more ≠ [] := by
    rintro rfl
    have hlength := Text.length_cut '\n' c
    rw [hc, List.length_singleton] at hlength
    exact List.count_eq_zero.1 (Nat.succ.inj hlength).symm hfeed
  rcases List.eq_nil_or_concat more with rfl | ⟨middle, last, rfl⟩
  · exact absurd rfl hmore
  rw [List.concat_eq_append] at hc hpage hnew
  have hsame : (front ++ (x ++ y) :: middle) ++ [last] = above ++ [line] := by
    rw [← hlines, hpage, List.append_assoc, List.cons_append]
  rcases List.append_inj' hsame rfl with ⟨rfl, hlast⟩
  obtain rfl : last = line := (List.cons.inj hlast).1
  rw [List.forall_mem_append, List.forall_mem_cons] at habove
  rcases habove with ⟨hfront, hxy, hmiddle⟩
  have hx : isImportLine x = false := Bool.eq_false_iff.2 fun himport => by
    rw [isImportLine, List.isPrefixOf_iff_prefix.2
      ((List.isPrefixOf_iff_prefix.1 himport).trans (List.prefix_append x y))] at hxy
    exact Bool.true_eq_false.mp hxy
  have hy : isImportLine y = false := isImportLine_of_closesPage hb
    ((Text.prefix_of_cut hc).trans (heq ▸ List.prefix_append c back))
  refine ⟨⟨front ++ x :: (popupLines tag ++ y :: middle), last, ?_, ?_, hline⟩, ?_⟩
  · rw [hnew]
    simp only [List.append_assoc, List.cons_append]
  · rw [List.forall_mem_append, List.forall_mem_cons, List.forall_mem_append, List.forall_mem_cons]
    exact ⟨hfront, hx, fun l hl => isImportLine_popupLine ht hl, hy, hmiddle⟩
  · have hglue : Text.unlines ((y :: middle) ++ [last]) = c := by
      rw [List.cons_append, ← hc]
      exact Text.glue_cut '\n' c
    rw [← hglue, Text.unlines,
      Text.glue_append (List.cons_ne_nil y middle) (List.cons_ne_nil last [])]
    exact ⟨_, last, rfl, hline⟩

/-- The closing lines do not begin within the first import line. -/
theorem ImportWhole.nil_of_parts {a b c front back : Text} (h : ImportWhole (a ++ b))
    (hpage : a ++ b = front ++ back) (hfront : front = a ++ c) (hb : b = c ++ back)
    (hends : EndsInImport front) (hback : ∀ d ∈ back.head?, d = '\n')
    (hfirst : Text.FirstPlace closesPage a b) (hfeed : '\n' ∉ c) : c = [] := by
  have hslot := hends.importSlot_count hback
  rw [← hpage] at hslot
  have hcount : a.count '\n' = front.count '\n' := by
    rw [hfront, List.count_append, List.count_eq_zero.2 hfeed, Nat.add_zero]
  have hhead := h _ a b rfl hslot (popupSlot_append_iff.2 hfirst) hcount
  cases c with
  | nil => rfl
  | cons d c =>
      rw [hb] at hhead
      exact absurd (Option.some.inj hhead ▸ List.mem_cons_self) hfeed

/-- The imports above the popup element. -/
theorem put_imports_popup_above {front b c : Text} (hends : EndsInImport front)
    (hback : ∀ d ∈ (c ++ b).head?, d = '\n')
    (hfirst : Text.FirstPlace closesPage (front ++ c) b)
    (hmissing : hasFragment ((front ++ c) ++ (popupElement tag ++ b)) .imports tag = false)
    (hno : hasFragment (front ++ ('\n' :: importLines ++ (c ++ b))) .component tag = false) :
    put ((front ++ c) ++ (popupElement tag ++ b)) tag .imports
      = put (front ++ ('\n' :: importLines ++ (c ++ b))) tag .component := by
  have hback' : ∀ d ∈ (c ++ (popupElement tag ++ b)).head?, d = '\n' := by
    cases c with
    | nil =>
        rw [popupElement_parts]
        exact fun d hd => (Option.some.inj hd).symm
    | cons d c => exact hback
  have hassoc : ∀ t, front ++ ('\n' :: importLines ++ (c ++ t))
      = (front ++ ('\n' :: importLines ++ c)) ++ t := fun t => by
    simp only [List.append_assoc]
  have hclosed := popupSlot_insert harmless_imports
    ((List.append_assoc front c b) ▸ popupSlot_append_iff.2 hfirst)
  rw [List.append_assoc] at hmissing ⊢
  rw [put_imports_behind hends hback' hmissing, hassoc, hassoc, put_popup (hassoc b ▸ hno)
    (popupSlot_append_iff.1 (hassoc b ▸ hclosed))]

/-- The imports below the popup element. -/
theorem put_imports_popup_below (ht : tag.isSolid = true) {a back c : Text}
    (hends : EndsInImport (a ++ c)) (hback : ∀ d ∈ back.head?, d = '\n') (hfeed : '\n' ∈ c)
    (hfirst : Text.FirstPlace closesPage a (c ++ back))
    (hmissing : hasFragment (a ++ (popupElement tag ++ (c ++ back))) .imports tag = false)
    (hno : hasFragment ((a ++ c) ++ ('\n' :: importLines ++ back)) .component tag = false) :
    put (a ++ (popupElement tag ++ (c ++ back))) tag .imports
      = put ((a ++ c) ++ ('\n' :: importLines ++ back)) tag .component := by
  rcases endsInImport_below_popup ht hfirst.1 rfl hfeed hends with
    ⟨hends', above, line, rfl, hline⟩
  have hbars : ∀ t, Text.Bars closingWords ('\n' :: (line ++ t)) := by
    rcases List.isPrefixOf_iff_prefix.1 hline with ⟨rest, rfl⟩
    exact fun t => ⟨['\n'], 'i', _, rfl, Text.isGap_feed, by decide, by decide⟩
  have hassoc : ∀ t, (above ++ '\n' :: line) ++ t = above ++ '\n' :: (line ++ t) := fun t => by
    rw [List.append_assoc, List.cons_append]
  -- the closing lines end above the import line, and so above what comes in under it
  have hmoved : Text.FirstPlace closesPage a
      ((above ++ '\n' :: line) ++ ('\n' :: importLines ++ back)) := by
    rw [hassoc] at hfirst ⊢
    exact firstPlace_of_bars (hbars _)
      (closesPage_append (closesPage_of_bars (hbars back) hfirst.1) _) hfirst
  rw [← List.append_assoc (popupElement tag), ← List.append_assoc a] at hmissing ⊢
  rw [put_imports_behind hends' hback hmissing]
  rw [List.append_assoc a (above ++ '\n' :: line)] at hno ⊢
  rw [put_popup hno hmoved]
  simp only [List.append_assoc]

/-- The imports and the popup element can go in in either order, if the element does not part
    the first import line and its tag does not name the hook. -/
theorem put_imports_popup (ht : tag.isSolid = true) {page : Text}
    (hpopup : (add page .component tag).2 = .added) (himports : (add page .imports tag).2 = .added)
    (hnamed : ¬ hookName <:+: tag) (hwhole : ImportWhole page) :
    put (put page tag .component) tag .imports = put (put page tag .imports) tag .component := by
  rcases exists_parts_of_popup_added hpopup with ⟨a, b, rfl, hfirst, hno, hput⟩
  rcases added_inversion (Prod.ext rfl himports) with ⟨hmissing, slot, hslot, -⟩
  rcases EndsInImport.exists_parts hslot with ⟨front, back, hpage, hends, hback⟩
  have hmissing' := not_hasFragment_imports_put_popup ht hnamed hmissing
  have hno' := (hasFragment_put_of_ne ht .component .imports (by decide) (by decide)
    (a ++ b)).trans hno
  rw [hput] at hmissing' ⊢
  rw [hpage, put_imports_behind hends hback (hpage ▸ hmissing)] at hno' ⊢
  -- the line is above the closing lines, or below them
  have hcases : (∃ c, a = front ++ c ∧ back = c ++ b)
      ∨ ∃ c, front = a ++ c ∧ b = c ++ back ∧ '\n' ∈ c := by
    rcases List.append_eq_append_iff.1 hpage with ⟨c, hfront, hb⟩ | ⟨c, ha, hc⟩
    · by_cases hfeed : '\n' ∈ c
      · exact Or.inr ⟨c, hfront, hb, hfeed⟩
      · obtain rfl : c = [] := hwhole.nil_of_parts hpage hfront hb hends hback hfirst hfeed
        exact Or.inl ⟨[], by rw [hfront, List.append_nil, List.append_nil], hb.symm⟩
    · exact Or.inl ⟨c, ha, hc⟩
  rcases hcases with ⟨c, rfl, rfl⟩ | ⟨c, rfl, rfl, hfeed⟩
  · exact put_imports_popup_above hends hback hfirst hmissing' hno'
  · exact put_imports_popup_below ht hends hback hfeed hfirst hmissing' hno'

/-- The text in front of the popup element has its lines down to the element. -/
theorem hookSlot_popup_above (ht : tag.isSolid = true) {a b : Text} {index indent : Nat}
    (h : hookSlot a = .ok (.line index indent)) :
    hookSlot (a ++ (popupElement tag ++ b)) = .ok (.line index indent) := by
  rcases Text.exists_cut_concat '\n' a with ⟨front, x, ha⟩
  rcases Text.exists_cut_cons '\n' b with ⟨y, back, hb⟩
  have hnew := (lines_popup (Text.notMem_of_isSolid ht (by decide)) ha hb).2
  rcases hookSite_of_line h with ⟨start, line, hsite, -⟩
  have hlt : index < a.lines.length := (List.getElem?_eq_some_iff.1 hsite.here).1
  have hsplit : (a ++ (popupElement tag ++ b)).lines
      = a.lines ++ (popupLines tag ++ y :: back) := by
    rw [hnew, show a.lines = front ++ [x] from ha, List.append_assoc, List.singleton_append]
  exact hookSlot_of_lines (List.append_nil _).symm hsplit h hlt

/-- Below the line that the popup element parts, each line is seven lines further down. -/
theorem getElem?_below_popup (ht : tag.isSolid = true) {a b : Text} {index : Nat}
    (hbelow : a.count '\n' < index) :
    (a ++ (popupElement tag ++ b)).lines[index + 7]? = (a ++ b).lines[index]? := by
  have hlength := Text.length_cut '\n' a
  rcases Text.exists_cut_concat '\n' a with ⟨front, x, ha⟩
  rcases Text.exists_cut_cons '\n' b with ⟨y, back, hb⟩
  rcases lines_popup (Text.notMem_of_isSolid ht (by decide)) ha hb with ⟨hpage, hnew⟩
  rw [ha, List.length_append, List.length_singleton] at hlength
  have hsix : (popupLines tag).length = 6 := rfl
  have hpage : (a ++ b).lines = (front ++ [x ++ y]) ++ back := by
    rw [hpage, List.append_assoc, List.singleton_append]
  have hnew : (a ++ (popupElement tag ++ b)).lines
      = (front ++ x :: (popupLines tag ++ [y])) ++ back := by
    rw [hnew]
    simp only [List.append_assoc, List.cons_append, List.nil_append]
  rw [hpage, hnew, List.getElem?_append_right, List.getElem?_append_right]
  · simp only [List.length_append, List.length_cons, List.length_nil, hsix]
    congr 1
    omega
  · simp only [List.length_append, List.length_cons, List.length_nil]
    omega
  · simp only [List.length_append, List.length_cons, List.length_nil, hsix]
    omega

/-- A hook site below the popup element is seven lines further down, if that is in reach. -/
theorem hookSlot_popup_below (ht : tag.isSolid = true) {a b line : Text} {start index : Nat}
    (hb : closesPage b = true) (h : HookSite (a ++ b) start index line)
    (hbelow : a.count '\n' < index) :
    hookSlot (a ++ (popupElement tag ++ b)) = .ok (.line (index + 7) line.indent)
      ↔ ∀ start, pageLine a = some start → index + 7 < start + hookReach := by
  have hlow := h.low
  have hhigh := h.high
  have hhere := (getElem?_below_popup ht hbelow).trans h.here
  -- from the page function to the site no line is one
  have hnone : ∀ start', start' = start ∧ start ≤ a.count '\n' ∨ start' = start + 7 →
      ∀ j l, start' ≤ j → j < index + 7 → (a ++ (popupElement tag ++ b)).lines[j]? = some l →
        isHookSite l = false := by
    intro start' hstart' j l hj hjindex hl
    exact not_isHookSite_popup ht h.first hl (by omega) (by omega)
  rcases pageLine_popup (a := a) ht hb with ⟨hpage, hnew⟩
  have hopened := h.opened
  rw [hpage] at hopened
  cases hfront : pageLineFrom 0 a with
  | none =>
      -- the page function is pushed down as well
      rw [hfront, Option.none_or] at hopened hnew
      rw [hopened, Option.map_some] at hnew
      refine iff_of_true (hookSlot_eq_ok_iff.2 ⟨start + 7, index + 7, line,
        ⟨hnew, by omega, by omega, hhere, h.site, hnone _ (Or.inr rfl)⟩, rfl⟩) fun s hs => ?_
      exact nomatch hs.symm.trans hfront
  | some s =>
      rw [hfront, Option.some_or] at hopened hnew
      obtain rfl : s = start := Option.some.inj hopened
      have hle := (pageLineFrom_le hfront).2
      constructor
      · intro hslot s' hs'
        rcases hookSite_of_line hslot with ⟨start, l, hsite, -⟩
        obtain rfl : s = start := Option.some.inj (hnew.symm.trans hsite.opened)
        obtain rfl : s = s' := Option.some.inj (hfront.symm.trans hs')
        exact hsite.high
      · intro hreach
        exact hookSlot_eq_ok_iff.2 ⟨s, index + 7, line,
          ⟨hnew, by omega, hreach s hfront, hhere, h.site, hnone _ (Or.inl ⟨rfl, by omega⟩)⟩, rfl⟩

/-- Rows with the popup element among them are rows as well, seven more. -/
theorem exists_rows_popup (ht : '\n' ∉ tag) {lines : List Text} {a d : Text}
    (hlines : ∀ line ∈ lines, '\n' ∉ line) (hrows : Text.rows lines = a ++ (d ++ ['\n'])) :
    ∃ lines', (∀ t, a ++ (popupElement tag ++ ((d ++ ['\n']) ++ t)) = Text.rows lines' ++ t)
      ∧ (∀ line ∈ lines', '\n' ∉ line) ∧ lines'.length = lines.length + 7 := by
  have hlength := Text.count_rows hlines
  rw [hrows, List.count_append, List.count_append, List.count_singleton_self] at hlength
  rcases Text.exists_rows_of_feed (a ++ (popupElement tag ++ d)) with
    ⟨lines', hrows', hlines', hcount⟩
  rw [List.count_append, List.count_append, count_popupElement ht] at hcount
  refine ⟨lines', fun t => ?_, hlines', by omega⟩
  rw [← hrows']
  simp only [List.append_assoc]

section

variable {a b below : Text} {lines : List Text} {indent : Nat}

/-- The hook call above the popup element. -/
theorem put_hook_popup_above (ht : tag.isSolid = true) (hlines : ∀ line ∈ lines, '\n' ∉ line)
    (hfirst : Text.FirstPlace closesPage a b) (hpage : a ++ b = Text.rows lines ++ below)
    (habove : hookSlot a = .ok (.line lines.length indent))
    (hstart : lines.length = 0 → closesPage ('\n' :: (a ++ b)) = false)
    (hmissing : hasFragment (a ++ (popupElement tag ++ b)) .hook tag = false)
    (hno : hasFragment (Text.rows lines ++ (hookRow indent tag ++ below)) .component tag = false) :
    put (a ++ (popupElement tag ++ b)) tag .hook
      = put (Text.rows lines ++ (hookRow indent tag ++ below)) tag .component := by
  rcases hookSite_of_line habove with ⟨start, line, hsite, -⟩
  have hlt : lines.length < a.lines.length := (List.getElem?_eq_some_iff.1 hsite.here).1
  have hlength : a.lines.length = a.count '\n' + 1 := Text.length_cut '\n' a
  rcases Text.rows_above hlines hpage (by omega) with ⟨c, rfl, rfl⟩
  have hslot := hookSlot_popup_above ht (b := b) habove
  have hassoc : ∀ t, Text.rows lines ++ (hookRow indent tag ++ (c ++ t))
      = (Text.rows lines ++ (hookRow indent tag ++ c)) ++ t := fun t => by
    simp only [List.append_assoc]
  have hclosed : popupSlot (Text.rows lines ++ (hookRow indent tag ++ (c ++ b)))
      = .ok (.offset (octets (Text.rows lines ++ (hookRow indent tag ++ c)))) := by
    refine popupSlot_rows (harmless_hook ht indent) (fun hnil => ?_) ?_
    · have hclosed := hstart (congrArg List.length hnil)
      rwa [hnil] at hclosed
    · rw [← List.append_assoc]
      exact popupSlot_append_iff.2 hfirst
  rw [hassoc] at hclosed hno ⊢
  rw [put_popup hno (popupSlot_append_iff.1 hclosed)]
  rw [List.append_assoc] at hmissing hslot ⊢
  rw [put, add_rows hlines hmissing hslot, rows_hook (Text.notMem_of_isSolid ht (by decide)),
    hassoc]

/-- The hook call below the popup element. -/
theorem put_hook_popup_below (ht : tag.isSolid = true) (hlines : ∀ line ∈ lines, '\n' ∉ line)
    (hfirst : Text.FirstPlace closesPage a b) (hpage : a ++ b = Text.rows lines ++ below)
    (hslot : hookSlot (a ++ b) = .ok (.line lines.length indent))
    (hclosed : popupSlot (Text.rows lines) = .ok (.offset (octets a)))
    (hreach : ∀ start, pageLine a = some start → lines.length + 7 < start + hookReach)
    (hmissing : hasFragment (a ++ (popupElement tag ++ b)) .hook tag = false)
    (hno : hasFragment (Text.rows lines ++ (hookRow indent tag ++ below)) .component tag = false) :
    put (a ++ (popupElement tag ++ b)) tag .hook
      = put (Text.rows lines ++ (hookRow indent tag ++ below)) tag .component := by
  have hfeed : '\n' ∉ tag := Text.notMem_of_isSolid ht (by decide)
  rcases popupSlot_eq_ok hclosed with ⟨a', c, hrows, hoctets, -⟩
  rw [hrows, List.append_assoc] at hpage
  rcases append_inj_of_octets hpage (Slot.offset.inj hoctets) with ⟨rfl, rfl⟩
  rw [hrows] at hclosed
  have habove := popupSlot_append_iff.1 hclosed
  have hc : c ≠ [] := by
    rintro rfl
    exact absurd habove.1 (by decide)
  rcases Text.exists_feed_of_rows hrows hc with ⟨d, rfl⟩
  have hlength := Text.count_rows hlines
  rw [hrows, List.count_append, List.count_append, List.count_singleton_self] at hlength
  -- the rows above the site, with the element among them
  rcases exists_rows_popup hfeed hlines hrows with ⟨lines', hassoc, hlines', hpushed⟩
  rcases hookSite_of_line hslot with ⟨start, line, hsite, rfl⟩
  have hslot' := (hookSlot_popup_below ht hfirst.1 hsite (by omega)).2 hreach
  rw [hassoc, ← hpushed] at hslot'
  rw [hassoc] at hmissing ⊢
  have hleft := add_rows hlines' hmissing hslot'
  rw [rows_hook hfeed] at hleft
  -- the closing lines end above the hook call, so it changes nothing for them
  have hbelow : (d ++ ['\n']) ++ (hookRow line.indent tag ++ below)
      = d ++ (('\n' :: indented line.indent (hookLine tag)) ++ '\n' :: below) := by
    simp only [hookRow, List.append_assoc, List.cons_append, List.nil_append]
  have hmoved : Text.FirstPlace closesPage a
      ((d ++ ['\n']) ++ (hookRow line.indent tag ++ below)) := by
    have htail := closesPage_append habove.1 (hookRow line.indent tag ++ below)
    rw [hbelow] at htail ⊢
    exact firstPlace_of_bars ((harmless_hook ht line.indent).bars.append _) htail habove
  rw [hrows, List.append_assoc a] at hno ⊢
  rw [put_popup hno hmoved, hassoc, put, hleft]

end

/-- The hook call and the popup element can go in in either order, if the hook site is still
    found once the element is in. -/
theorem put_hook_popup (ht : tag.isSolid = true) {page : Text}
    (hpopup : (add page .component tag).2 = .added) (hhook : (add page .hook tag).2 = .added)
    (hstays : SiteStays page) :
    put (put page tag .component) tag .hook = put (put page tag .hook) tag .component := by
  have hfeed : '\n' ∉ tag := Text.notMem_of_isSolid ht (by decide)
  rcases exists_parts_of_popup_added hpopup with ⟨a, b, rfl, hfirst, hno, hput⟩
  rcases exists_rows_of_hook_added hfeed hhook with
    ⟨lines, indent, below, hlines, hpage, hslot, hrow⟩
  have hmissing := (hasFragment_put_of_ne ht .hook .component (by decide) (by decide)
    (a ++ b)).trans (added_inversion (Prod.ext rfl hhook)).1
  have hno := (hasFragment_put_of_ne ht .component .hook (by decide) (by decide)
    (a ++ b)).trans hno
  have htake : (a ++ b).lines.take lines.length = lines := by
    rw [hpage, Text.lines_rows_append hlines, List.take_left]
  rw [← hpage] at hslot
  rw [hput] at hmissing ⊢
  rw [hrow] at hno ⊢
  rcases hstays _ _ a b rfl hslot (popupSlot_append_iff.2 hfirst) with
    ⟨habove, hstart⟩ | ⟨hclosed, hreach⟩
  · exact put_hook_popup_above ht hlines hfirst hpage (habove.trans hslot) hstart hmissing hno
  · rw [htake, popupSlot_append_iff.2 hfirst] at hclosed
    exact put_hook_popup_below ht hlines hfirst hpage hslot hclosed hreach hmissing hno

end

end Page

end HelpWiring
