import HelpWiring.Proofs.Page.Fragment
import HelpWiring.Proofs.Page.Grammar
import HelpWiring.Proofs.Page.Insertion
import HelpWiring.Proofs.Page.Scan
import Mathlib.Data.List.Chain

/-!
# Missing Anchors Stay Missing

A fragment whose anchor is missing is passed over, and the fragments after it
may still go in. Could one of them bring the anchor along, so that the next run
would put in what this one could not? It cannot, and this is why.

The hook call is a line that imports nothing. The popup element comes in front
of blanks, and no line of it imports, opens a page or calls a hook: nowhere in
it is there a `t` in front of a space, as there is in `import `, `export ` and
`const `. It parts one line of the page into two, which hold no more than the
one did. It pushes lines down, out of the window of the hook site, and the head
of the page function is not moved against the lines behind it.

## Main definitions

* `Breaks`: Texts that no page head reaches into.
* `Kind.before`: The order in which fragments are applied.

## Theorems

* `opensPage_of_breaks`: A page head ends in front of such a text.
* `pair_not_infix_popupElement`: The popup element has no `t` before a space.
* `pageLine_popup`: Where the page function is, once the element is in.
* `lines_popup`, `line_popup`: The lines of the page, once the element is in.
* `not_isHookSite_popup`: None of them is a hook site if those of the page were none.
* `hookSlot_popup`, `importSlot_popup`, `importSlot_hook`: What is missing stays
  missing.
* `findSlot_error_add`: The same for a step and all fragments before it.
-/

namespace HelpWiring

/-- A text that starts with a blank, and if that is a space, goes on with a
    blank or with a tag. -/
def Breaks (t : Text) : Prop :=
  ∃ c rest, t = c :: rest ∧ isBlank c = true
    ∧ (c ≠ ' ' ∨ ∀ d ∈ rest.head?, isBlank d = true ∨ d = '<')

/-- Behind a blank a page head goes on with a name or a brace. -/
theorem isChain_head {name : Text} (hne : name ≠ []) (hword : ∀ c ∈ name, isWord c = true) :
    List.IsChain (fun c d => isBlank c = true → isBlank d = false ∧ d ≠ '<')
      ("export function ".toList ++ (name ++ "() \x7b".toList)) := by
  have hsolid : ∀ c ∈ name, isBlank c = false := fun c hc => isBlank_of_isWord (hword c hc)
  have hname : List.IsChain (fun c d => isBlank c = true → isBlank d = false ∧ d ≠ '<') name := by
    refine (List.pairwise_of_forall_mem_list ?_).isChain
    intro c hc d hd hblank
    rw [hsolid c hc] at hblank
    exact absurd hblank Bool.false_ne_true
  refine List.isChain_append.2 ⟨by decide +kernel, List.isChain_append.2
    ⟨hname, by decide +kernel, ?_⟩, ?_⟩
  · intro c hc d hd hblank
    rw [hsolid c (List.mem_of_getLast? hc)] at hblank
    exact absurd hblank Bool.false_ne_true
  · intro c hc d hd hblank
    cases name with
    | nil => exact absurd rfl hne
    | cons e r =>
        obtain rfl : e = d := Option.some.inj hd
        refine ⟨hsolid e List.mem_cons_self, ?_⟩
        rintro rfl
        exact absurd (hword '<' List.mem_cons_self) (by decide +kernel)

/-- The only blanks in a page head are spaces. -/
theorem eq_space_of_mem_head {name : Text} (hword : ∀ c ∈ name, isWord c = true) {c : Char}
    (hc : c ∈ "export function ".toList ++ (name ++ "() \x7b".toList))
    (hblank : isBlank c = true) : c = ' ' := by
  have hfront : List.all "export function ".toList (fun d => !isBlank d || d == ' ') = true := by
    decide
  have hback : List.all "() \x7b".toList (fun d => !isBlank d || d == ' ') = true := by
    decide
  rw [List.all_eq_true] at hfront hback
  have honly : (!isBlank c || c == ' ') = true → c = ' ' := by
    intro h
    rw [hblank] at h
    exact beq_iff_eq.1 h
  rcases List.mem_append.1 hc with hc | hc
  · exact honly (hfront c hc)
  · rcases List.mem_append.1 hc with hc | hc
    · rw [isBlank_of_isWord (hword c hc)] at hblank
      exact absurd hblank Bool.false_ne_true
    · exact honly (hback c hc)

theorem opensPage_of_breaks {t : Text} (ht : Breaks t) (s : Text) :
    opensPage (s ++ t) = opensPage s := by
  refine Bool.eq_iff_iff.2 ⟨?_, fun h => opensPage_append h t⟩
  intro h
  rcases opensPage_iff.1 h with ⟨name, rest, heq, hword, hlong, hpage⟩
  have hne : name ≠ [] := List.ne_nil_of_length_pos (by omega)
  have hhead : s ++ t = ("export function ".toList ++ (name ++ "() \x7b".toList)) ++ rest := by
    rw [heq]
    simp only [List.append_assoc]
  rcases List.append_eq_append_iff.1 hhead with ⟨past, hpast, hrest⟩ | ⟨more, hs, -⟩
  · -- the head would reach into `t`, unless it just ends there
    cases past with
    | nil =>
        rw [List.append_nil] at hpast
        exact opensPage_iff.2 ⟨name, [], by rw [← hpast]; simp only [List.append_nil], hword,
          hlong, hpage⟩
    | cons c past =>
        exfalso
        rcases ht with ⟨c', r, rfl, hblank, hnext⟩
        rw [List.cons_append, List.cons.injEq] at hrest
        rcases hrest with ⟨rfl, rfl⟩
        have hmem : c' ∈ s ++ c' :: past := List.mem_append_right s List.mem_cons_self
        have hspace : c' = ' ' := eq_space_of_mem_head hword (hpast ▸ hmem) hblank
        cases past with
        | nil =>
            -- the head would end in a space, but it ends in a brace
            have hlast := congrArg List.getLast? hpast
            rw [← List.append_assoc, List.getLast?_append_of_ne_nil _ (by decide),
              List.getLast?_append_of_ne_nil _ (List.cons_ne_nil _ _), hspace] at hlast
            exact absurd hlast (by decide)
        | cons d past =>
            -- behind a space in the head comes neither a blank nor a tag
            have hpair : [c', d] <:+: s ++ c' :: d :: past := ⟨s, past, by
              simp only [List.append_assoc, List.cons_append, List.nil_append]⟩
            have hchain := List.IsChain.infix (isChain_head hne hword) (hpast ▸ hpair)
            rcases List.isChain_pair.1 hchain hblank with ⟨hd, htag⟩
            rcases hnext with hc | hd'
            · exact hc hspace
            · rcases hd' d rfl with hd' | hd'
              · rw [hd] at hd'
                exact absurd hd' Bool.false_ne_true
              · exact htag hd'
  · exact opensPage_iff.2 ⟨name, more, by rw [hs]; simp only [List.append_assoc], hword, hlong,
      hpage⟩

theorem breaks_of_closesPage {t : Text} (h : closesPage t = true) : Breaks t := by
  rcases closesPage_iff.1 h with ⟨run, _, _, _, rfl, ⟨hne, hrun⟩, -⟩
  cases run with
  | nil => exact absurd rfl hne
  | cons c run =>
      refine ⟨c, _, rfl, hrun c List.mem_cons_self, Or.inr ?_⟩
      intro d hd
      cases run with
      | nil =>
          obtain rfl : '<' = d := Option.some.inj hd
          exact Or.inr rfl
      | cons e r =>
          obtain rfl : e = d := Option.some.inj hd
          exact Or.inl (hrun e (List.mem_cons_of_mem c List.mem_cons_self))

theorem isChain_popupElement {tag : Text} (ht : tag.isSolid = true) :
    List.IsChain (fun c d => c = 't' → d ≠ ' ') (popupElement tag) := by
  have hquote : isBlank '"' = false := by decide
  have hkey := isSolid_keyAttribute hquote ht
  have hspace : ' ' ∉ keyAttribute '"' tag := Text.notMem_of_isSolid hkey (by decide)
  have hname : List.IsChain (fun c d => c = 't' → d ≠ ' ') (keyAttribute '"' tag) := by
    refine (List.pairwise_of_forall_mem_list ?_).isChain
    rintro c - d hd - rfl
    exact hspace hd
  rw [popupElement_eq]
  refine List.isChain_append.2 ⟨by decide +kernel, List.isChain_append.2
    ⟨hname, by decide +kernel, ?_⟩, ?_⟩
  · intro c _ d hd _
    obtain rfl : '\n' = d := Option.some.inj hd
    decide
  · intro c _ d hd _
    obtain rfl : 'p' = d := Option.some.inj hd
    decide

theorem pair_not_infix_popupElement {tag piece : Text} (ht : tag.isSolid = true)
    (hpair : ['t', ' '] <:+: piece) : ¬ piece <:+: popupElement tag := by
  intro h
  have hchain := List.IsChain.infix (isChain_popupElement ht) (hpair.trans h)
  exact List.isChain_pair.1 hchain rfl rfl

theorem opensPage_popupElement {tag : Text} (ht : tag.isSolid = true) {s : Text}
    (hs : s <:+ popupElement tag) : opensPage s = false := by
  refine Bool.eq_false_iff.2 fun h => ?_
  rcases opensPage_iff.1 h with ⟨name, rest, rfl, -⟩
  have hpair : ['t', ' '] <:+: "export function ".toList := Text.mentions_iff.1 (by decide)
  exact pair_not_infix_popupElement ht hpair (List.infix_append_left.trans hs.isInfix)

theorem infix_of_mem_popupLines {tag line : Text} (h : line ∈ popupLines tag) :
    line <:+: popupElement tag := by
  rw [popupElement_eq_unlines]
  exact Text.infix_glue (List.mem_cons_of_mem _ (List.mem_append_left _ h))

theorem isHookSite_popupLine {tag line : Text} (ht : tag.isSolid = true)
    (h : line ∈ popupLines tag) : isHookSite line = false := by
  refine Bool.eq_false_iff.2 fun hsite => ?_
  have hpair : ['t', ' '] <:+: "const ".toList := Text.mentions_iff.1 (by decide)
  exact pair_not_infix_popupElement ht hpair
    ((const_infix_of_isHookSite hsite).trans (infix_of_mem_popupLines h))

theorem isImportLine_popupLine {tag line : Text} (ht : tag.isSolid = true)
    (h : line ∈ popupLines tag) : isImportLine line = false := by
  refine Bool.eq_false_iff.2 fun himport => ?_
  have hpair : ['t', ' '] <:+: "import ".toList := Text.mentions_iff.1 (by decide)
  exact pair_not_infix_popupElement ht hpair
    ((List.isPrefixOf_iff_prefix.1 himport).isInfix.trans (infix_of_mem_popupLines h))

section

-- a page `a ++ b`, the popup element for `tag` between its parts
variable {a b tag : Text}

theorem count_popupElement (ht : '\n' ∉ tag) : (popupElement tag).count '\n' = 7 := by
  have hlength := Text.length_cut '\n' (popupElement tag)
  rw [show Text.cut '\n' (popupElement tag) = _ from popupElement_lines ht] at hlength
  exact (Nat.succ.inj hlength).symm

/-- The head of the page function is the same one, and where the element comes
    in front of it, it is seven lines further down. -/
theorem pageLine_popup (ht : tag.isSolid = true) (hb : closesPage b = true) :
    pageLine (a ++ b) = (pageLineFrom 0 a).or (pageLineFrom (a.count '\n') b)
    ∧ pageLine (a ++ (popupElement tag ++ b))
      = (pageLineFrom 0 a).or ((pageLineFrom (a.count '\n') b).map (· + 7)) := by
  have hline : '\n' ∉ tag := Text.notMem_of_isSolid ht (by decide)
  have hbreak := breaks_of_closesPage hb
  have hpopup : Breaks (popupElement tag ++ b) := by
    rw [popupElement_eq]
    exact ⟨'\n', _, rfl, by decide, Or.inl (by decide)⟩
  have hnone : pageLineFrom (a.count '\n') (popupElement tag) = none :=
    pageLineFrom_eq_none_iff.2 fun s _ hs => opensPage_popupElement ht hs
  constructor
  · rw [pageLine, pageLineFrom_append fun s _ _ => opensPage_of_breaks hbreak s, Nat.zero_add]
  · rw [pageLine, pageLineFrom_append fun s _ _ => opensPage_of_breaks hpopup s, Nat.zero_add,
      pageLineFrom_append fun s _ _ => opensPage_of_breaks hbreak s, hnone, Option.none_or,
      count_popupElement hline, pageLineFrom_add]

/-- The element parts one line of the page, and its own lines stand between the halves. -/
theorem lines_popup (ht : '\n' ∉ tag) {front back : List Text} {x y : Text}
    (ha : a.lines = front ++ [x]) (hb : b.lines = y :: back) :
    (a ++ b).lines = front ++ (x ++ y) :: back
    ∧ (a ++ (popupElement tag ++ b)).lines = front ++ x :: (popupLines tag ++ y :: back) := by
  refine ⟨Text.cut_append ha hb, ?_⟩
  have helement : Text.cut '\n' (popupElement tag) = ([] :: popupLines tag) ++ [[]] :=
    popupElement_lines ht
  have hinner := Text.cut_append helement hb
  rw [List.cons_append] at hinner
  have houter := Text.cut_append ha hinner
  rwa [List.append_nil, List.nil_append] at houter

/-- Each line of the page with the element in it is one of the element's, or a
    line of the page or what is left of it on one side of the element. -/
theorem line_popup (ht : '\n' ∉ tag) {index : Nat} {line : Text}
    (h : (a ++ (popupElement tag ++ b)).lines[index]? = some line) :
    (index ≤ a.count '\n' ∧ ∃ whole, (a ++ b).lines[index]? = some whole ∧ line <+: whole)
    ∨ line ∈ popupLines tag
    ∨ (a.count '\n' + 7 ≤ index ∧ ∃ whole, (a ++ b).lines[index - 7]? = some whole
        ∧ (line = whole ∨ line <:+ whole ∧ line <+: b)) := by
  have hlength := Text.length_cut '\n' a
  rcases Text.exists_cut_concat '\n' a with ⟨front, x, ha⟩
  rcases Text.exists_cut_cons '\n' b with ⟨y, back, hb⟩
  rcases lines_popup ht ha hb with ⟨hpage, hnew⟩
  have hfront : front.length = a.count '\n' := by
    rw [ha, List.length_append, List.length_singleton] at hlength
    omega
  have hsix : (popupLines tag).length = 6 := rfl
  rw [hnew] at h
  rw [hpage, ← hfront]
  rcases Nat.lt_trichotomy index front.length with hlt | heq | hgt
  · -- above the line that is parted
    rw [List.getElem?_append_left hlt] at h
    refine Or.inl ⟨Nat.le_of_lt hlt, line, ?_, List.prefix_rfl⟩
    rw [List.getElem?_append_left hlt, h]
  · -- its first half
    subst heq
    rw [List.getElem?_append_right (Nat.le_refl _), Nat.sub_self, List.getElem?_cons_zero,
      Option.some.injEq] at h
    refine Or.inl ⟨Nat.le_refl _, x ++ y, ?_, h ▸ List.prefix_append x y⟩
    rw [List.getElem?_append_right (Nat.le_refl _), Nat.sub_self, List.getElem?_cons_zero]
  · rcases Nat.exists_eq_add_of_lt hgt with ⟨j, rfl⟩
    rw [List.getElem?_append_right (by omega),
      show front.length + j + 1 - front.length = j + 1 by omega, List.getElem?_cons_succ] at h
    by_cases hj : j < 6
    · rw [List.getElem?_append_left (by omega)] at h
      exact Or.inr (Or.inl (List.mem_of_getElem? h))
    · rw [List.getElem?_append_right (by omega), hsix] at h
      refine Or.inr (Or.inr ⟨by omega, ?_⟩)
      rw [List.getElem?_append_right (by omega),
        show front.length + j + 1 - 7 - front.length = j - 6 by omega]
      cases hrest : j - 6 with
      | zero =>
          -- its second half
          rw [hrest, List.getElem?_cons_zero, Option.some.injEq] at h
          exact ⟨x ++ y, rfl, Or.inr ⟨h ▸ List.suffix_append x y,
            h ▸ Text.prefix_of_cut hb⟩⟩
      | succ i =>
          rw [hrest, List.getElem?_cons_succ] at h
          exact ⟨line, h, Or.inl rfl⟩

/-- What closes a page starts with a blank, and so with no import line. -/
theorem isImportLine_of_closesPage {b y : Text} (hb : closesPage b = true) (hy : y <+: b) :
    isImportLine y = false := by
  refine Bool.eq_false_iff.2 fun himport => ?_
  rcases blank_of_closesPage hb with ⟨d, rest, rfl, hblank⟩
  have hprefix : "import ".toList <+: d :: rest := (List.isPrefixOf_iff_prefix.1 himport).trans hy
  obtain rfl : 'i' = d := (List.cons_prefix_cons.1 hprefix).1
  exact absurd hblank (by decide)

theorem importSlot_popup (ht : tag.isSolid = true) (hb : closesPage b = true)
    {reason : AnchorFault} (h : importSlot (a ++ b) = .error reason) :
    importSlot (a ++ (popupElement tag ++ b)) = .error reason := by
  rw [importSlot_eq_error_iff] at h ⊢
  refine ⟨h.1, fun line hline => ?_⟩
  rcases List.mem_iff_getElem?.1 hline with ⟨index, hindex⟩
  rcases line_popup (Text.notMem_of_isSolid ht (by decide)) hindex with
    ⟨-, whole, hwhole, hprefix⟩ | hmem | ⟨-, whole, hwhole, rfl | ⟨-, hfirst⟩⟩
  · -- what is left in front of the element begins as the whole line did
    have hno := h.2 whole (List.mem_of_getElem? hwhole)
    refine Bool.eq_false_iff.2 fun himport => Bool.eq_false_iff.1 hno ?_
    exact List.isPrefixOf_iff_prefix.2 ((List.isPrefixOf_iff_prefix.1 himport).trans hprefix)
  · exact isImportLine_popupLine ht hmem
  · exact h.2 line (List.mem_of_getElem? hwhole)
  · exact isImportLine_of_closesPage hb hfirst

/-- If the lines of the page in some range are no hook sites, neither are the lines that these
    become, with the element or what it leaves of a line among them. -/
theorem not_isHookSite_popup (ht : tag.isSolid = true) {low high index : Nat} {line : Text}
    (hsites : ∀ i whole, low ≤ i → i < high → (a ++ b).lines[i]? = some whole →
      isHookSite whole = false)
    (hline : (a ++ (popupElement tag ++ b)).lines[index]? = some line)
    (habove : index ≤ a.count '\n' → low ≤ index ∧ index < high)
    (hbelow : a.count '\n' + 7 ≤ index → low + 7 ≤ index ∧ index < high + 7) :
    isHookSite line = false := by
  have hpart : ∀ i whole, low ≤ i → i < high → (a ++ b).lines[i]? = some whole →
      line <:+: whole → isHookSite line = false := by
    intro i whole hi hi' hwhole hinfix
    refine Bool.eq_false_iff.2 fun hsite => Bool.eq_false_iff.1 (hsites i whole hi hi' hwhole) ?_
    exact isHookSite_of_infix hinfix hsite
  rcases line_popup (Text.notMem_of_isSolid ht (by decide)) hline with
    ⟨hindex, whole, hwhole, hprefix⟩ | hmem | ⟨hindex, whole, hwhole, hsame⟩
  · exact hpart index whole (habove hindex).1 (habove hindex).2 hwhole hprefix.isInfix
  · exact isHookSite_popupLine ht hmem
  · have hrange := hbelow hindex
    refine hpart (index - 7) whole (by omega) (by omega) hwhole ?_
    rcases hsame with rfl | ⟨hsuffix, -⟩
    · exact List.infix_rfl
    · exact hsuffix.isInfix

theorem hookSlot_popup (ht : tag.isSolid = true) (hb : closesPage b = true)
    {reason : AnchorFault} (h : hookSlot (a ++ b) = .error reason) :
    hookSlot (a ++ (popupElement tag ++ b)) = .error reason := by
  rcases pageLine_popup (a := a) ht hb with ⟨hpage, hnew⟩
  rcases hookSlot_eq_error h with rfl | rfl
  · rw [hookSlot_eq_noPageFunction_iff] at h ⊢
    rw [hpage, Option.or_eq_none_iff] at h
    rw [hnew, h.1, h.2]
    rfl
  · rw [hookSlot_eq_noHookSite_iff] at h ⊢
    rcases h with ⟨start, hstart, hsites⟩
    rw [hpage] at hstart
    -- the window moves with the head or loses lines, whatever comes into it
    have hmoved : ∃ start', pageLine (a ++ (popupElement tag ++ b)) = some start'
        ∧ (start' = start ∧ start ≤ a.count '\n' ∨ start' = start + 7 ∧ a.count '\n' ≤ start) := by
      cases hfront : pageLineFrom 0 a with
      | some s =>
          rw [hfront, Option.some_or, Option.some.injEq] at hstart
          subst hstart
          have hle := pageLineFrom_le hfront
          exact ⟨s, by rw [hnew, hfront, Option.some_or], Or.inl ⟨rfl, by omega⟩⟩
      | none =>
          rw [hfront, Option.none_or] at hstart
          have hle := pageLineFrom_le hstart
          exact ⟨start + 7, by rw [hnew, hfront, Option.none_or, hstart]; rfl,
            Or.inr ⟨rfl, hle.1⟩⟩
    rcases hmoved with ⟨start', hstart', hcases⟩
    refine ⟨start', hstart', fun index line hlow hhigh hline => ?_⟩
    exact not_isHookSite_popup ht hsites hline (by omega) (by omega)

end

theorem importSlot_hook {page tag : Text} {index indent : Nat} (ht : '\n' ∉ tag)
    {reason : AnchorFault} (h : importSlot page = .error reason) :
    importSlot (insertLines index indent (hookLine tag) page) = .error reason := by
  rw [importSlot_eq_error_iff] at h ⊢
  refine ⟨h.1, fun line hline => ?_⟩
  rw [insertLines_lines, Text.lines, Text.lines, Text.cut_of_notMem (notMem_hookLine ht)] at hline
  rcases List.mem_append.1 hline with hline | hline
  · exact h.2 line (List.mem_of_mem_take hline)
  · rcases List.mem_append.1 hline with hline | hline
    · rw [List.map_singleton, List.mem_singleton] at hline
      subst hline
      cases indent with
      | zero =>
          rw [hookLine_eq]
          rfl
      | succ n => rfl
    · exact h.2 line (List.mem_of_mem_drop hline)

/-- The order in which fragments are applied. -/
def Kind.before : Kind → Kind → Bool
  | imports, hook => true
  | imports, component => true
  | hook, component => true
  | _, _ => false

/-- A fragment whose anchor is missing does not get one from a fragment that
    is applied after it. -/
theorem findSlot_error_add {page tag : Text} {kind later : Kind} (ht : tag.isSolid = true)
    (hlater : kind.before later = true) {reason : AnchorFault}
    (h : findSlot page kind = .error reason) :
    findSlot (Page.add page later tag).1 kind = .error reason := by
  rcases Page.add_cases page later tag with
    ⟨-, hadd⟩ | ⟨-, _, -, hadd⟩ | ⟨-, slot, new, hslot, hnew, hadd⟩
  · rw [hadd]
    exact h
  · rw [hadd]
    exact h
  · rw [hadd]
    -- the imports come first, so there is nothing they are later than
    cases later with
    | imports => cases kind <;> exact absurd hlater (by decide)
    | hook =>
        rcases hookSlot_eq_ok hslot with ⟨index, indent, rfl⟩
        rw [splice?, Option.some.injEq] at hnew
        subst hnew
        cases kind with
        | imports => exact importSlot_hook (Text.notMem_of_isSolid ht (by decide)) h
        | hook => exact absurd hlater (by decide)
        | component => exact absurd hlater (by decide)
    | component =>
        rcases popupSlot_eq_ok hslot with ⟨a, b, rfl, rfl, hb⟩
        rw [splice?, insertAfter_append, Option.some.injEq] at hnew
        subst hnew
        cases kind with
        | imports => exact importSlot_popup ht hb h
        | hook => exact hookSlot_popup ht hb h
        | component => exact absurd hlater (by decide)

end HelpWiring
