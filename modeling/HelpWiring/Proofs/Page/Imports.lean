import HelpWiring.Proofs.Page.Cleaning
import HelpWiring.Proofs.Page.Steps
import HelpWiring.Proofs.Page.WellShaped

/-!
# Imports That Come Twice

Take a page that cleaning leaves alone, so that each import is on one line of it
at most. Once the page is wired, an import can be on two lines. There are two
ways to that, and `wire_clean_iff` says that there are no others.

The import lines go in together, as soon as the hook is not named anywhere. So a
page that imports the hook does not get them, but a page that imports the popup
alone gets both, and imports the popup twice from then on.

The popup element goes in front of the closing lines, and these can begin inside
a line. Then the line is parted, and an import that was in both halves of it is
on two lines.

Nothing else adds to the lines with an import. There is none in the lines of the
popup element or in the hook call, as long as the tag is solid, because it would
have blanks in places where they have none. And none lies across the place where
the popup element goes in, because the spaces in an import are single ones and
none is in front of a tag.

## Main definitions

* `ImportLike`: What is said here of an import.
* `Page.Torn`: A line that the popup element parts has an import on both sides.
* `Page.NoneRepeated`: Neither of the two ways was taken.

## Theorems

* `ImportLike.mentions_append`: No import lies across the start of the closing
  lines.
* `importCount_imports`, `importCount_hook`, `importCount_popup`: The lines with
  an import after a step.
* `importCount_beforePopup`: The same down to the popup element.
* `wire_clean_iff`: When wiring repeats no import.
* `imports_repeated`: A page for each of the two ways.
-/

namespace HelpWiring

/-- What the two imports have in common, as seen from the other fragments. -/
structure ImportLike (imp : Text) : Prop where
  keyword : ['t', ' '] <:+: imp
  brace : ['\x7b', ' '] <:+: imp
  /-- A blank is a space with something else behind it, and that is no tag. -/
  spaced : List.IsChain (fun c d => isBlank c = true → c = ' ' ∧ isBlank d = false ∧ d ≠ '<')
    (imp ++ ['<'])
  once : (importLines.lines.map (indented 0)).countP (·.mentions imp) = 1

theorem importLike_hookImport : ImportLike hookImport where
  keyword := Text.mentions_iff.1 (by decide)
  brace := Text.mentions_iff.1 (by decide)
  spaced := by decide +kernel
  once := by decide +kernel

theorem importLike_popupImport : ImportLike popupImport where
  keyword := Text.mentions_iff.1 (by decide)
  brace := Text.mentions_iff.1 (by decide)
  spaced := by decide +kernel
  once := by decide +kernel

section

variable {imp tag : Text}

/-- What is behind a blank in an import. -/
theorem ImportLike.behind_blank {s t : Text} {c : Char} (himp : ImportLike (s ++ c :: t))
    (hc : isBlank c = true) :
    c = ' ' ∧ ∃ d more, t = d :: more ∧ isBlank d = false ∧ d ≠ '<' := by
  have hpair : ∀ d more, t ++ ['<'] = d :: more → c = ' ' ∧ isBlank d = false ∧ d ≠ '<' := by
    intro d more hnext
    have hinfix : [c, d] <:+: s ++ c :: t ++ ['<'] := ⟨s, more, by
      simp only [List.append_assoc, List.cons_append, List.nil_append, hnext]⟩
    have hchain := List.IsChain.infix himp.spaced hinfix
    exact List.isChain_pair.1 hchain hc
  cases t with
  | nil => exact absurd rfl (hpair '<' [] rfl).2.2
  | cons d more =>
      rcases hpair d (more ++ ['<']) rfl with ⟨hspace, hd, htag⟩
      exact ⟨hspace, d, more, rfl, hd, htag⟩

/-- An import does not lie across the start of the closing lines. -/
theorem ImportLike.infix_or (himp : ImportLike imp) {x y b : Text} (hb : Breaks b) (hy : y <+: b)
    (h : imp <:+: x ++ y) : imp <:+: x ∨ imp <:+: y := by
  rcases List.infix_append_iff_ne_nil.1 h with h | h | ⟨s, t, -, hne, rfl, -, hty⟩
  · exact Or.inl h
  · exact Or.inr h
  · exfalso
    rcases hb with ⟨c, rest, rfl, hblank, hnext⟩
    -- the part in `y` would start with the blank that the closing lines start with
    rcases t with _ | ⟨c', t⟩
    · exact hne rfl
    · rcases List.cons_prefix_cons.1 (hty.trans hy) with ⟨rfl, hrest⟩
      rcases himp.behind_blank hblank with ⟨hspace, d, more, rfl, hd, htag⟩
      rcases hrest with ⟨past, rfl⟩
      rcases hnext with hc | hd'
      · exact hc hspace
      · rcases hd' d rfl with hd' | hd'
        · rw [hd] at hd'
          exact Bool.false_ne_true hd'
        · exact htag hd'

theorem ImportLike.mentions_append (himp : ImportLike imp) {x y b : Text} (hb : Breaks b)
    (hy : y <+: b) : (x ++ y).mentions imp = (x.mentions imp || y.mentions imp) := by
  rw [Bool.eq_iff_iff, Bool.or_eq_true, Text.mentions_iff, Text.mentions_iff, Text.mentions_iff]
  exact ⟨himp.infix_or hb hy, fun h => h.elim List.infix_append_of_infix_left
    List.infix_append_of_infix_right⟩

theorem ImportLike.mentions_popupLine (himp : ImportLike imp) (ht : tag.isSolid = true)
    {line : Text} (h : line ∈ popupLines tag) : line.mentions imp = false := by
  refine Bool.eq_false_iff.2 fun hmentions => ?_
  exact pair_not_infix_popupElement ht himp.keyword
    ((Text.mentions_iff.1 hmentions).trans (infix_of_mem_popupLines h))

theorem ImportLike.mentions_hookRow (himp : ImportLike imp) (ht : tag.isSolid = true)
    (indent : Nat) : (indented indent (hookLine tag)).mentions imp = false := by
  refine Bool.eq_false_iff.2 fun hmentions => ?_
  -- a brace with a space behind it would be in the line
  have hpair := himp.brace.trans (Text.mentions_iff.1 hmentions)
  have hspace : ' ' ∉ hookCall '\'' tag :=
    Text.notMem_of_isSolid (isSolid_hookCall (by decide) ht) (by decide)
  rw [hookLine_eq, indented, ← List.append_assoc] at hpair
  rcases Text.pair_infix_append hpair with h | h | h
  · -- there is no brace in front of the call
    have hbrace := h.subset (List.mem_cons_self : '\x7b' ∈ ['\x7b', ' '])
    rcases List.mem_append.1 hbrace with hbrace | hbrace
    · exact absurd (List.eq_of_mem_replicate hbrace) (by decide)
    · exact absurd hbrace (by decide)
  · -- and no space from there on
    have hblank := h.subset (List.mem_cons_of_mem '\x7b' List.mem_cons_self)
    rcases List.mem_append.1 hblank with hblank | hblank
    · exact hspace hblank
    · exact absurd hblank (by decide)
  · rw [hookCall_eq] at h
    exact absurd (Option.some.inj h) (by decide)

end

namespace Page

section

variable {page imp tag : Text}

theorem importCount_insertLines (index indent : Nat) (fragment page imp : Text) :
    importCount (insertLines index indent fragment page) imp
      = importCount page imp
        + (fragment.lines.map (indented indent)).countP (·.mentions imp) := by
  have hpage : importCount page imp = (page.lines.take index).countP (·.mentions imp)
      + (page.lines.drop index).countP (·.mentions imp) := by
    rw [importCount, ← List.countP_append, List.take_append_drop]
  rw [importCount, insertLines_lines, List.countP_append, List.countP_append, hpage]
  omega

theorem importCount_imports (himp : ImportLike imp) (h : (add page .imports tag).2 = .added) :
    importCount (put page tag .imports) imp = importCount page imp + 1 := by
  rcases added_inversion (Prod.ext rfl h) with ⟨-, slot, hslot, hnew⟩
  rcases importSlot_eq_ok hslot with ⟨i, rfl, -⟩
  have hput : insertLines (i + 1) 0 importLines page = put page tag .imports :=
    Option.some.inj hnew
  rw [← hput, importCount_insertLines, himp.once]

theorem importCount_hook (himp : ImportLike imp) (ht : tag.isSolid = true) (page : Text) :
    importCount (put page tag .hook) imp = importCount page imp := by
  by_cases h : (add page .hook tag).2 = .added
  · rcases added_inversion (Prod.ext rfl h) with ⟨-, slot, hslot, hnew⟩
    rcases hookSlot_eq_ok hslot with ⟨index, indent, rfl⟩
    have hlines : (Kind.hook.text tag).lines = [hookLine tag] :=
      Text.cut_of_notMem (notMem_hookLine (Text.notMem_of_isSolid ht (by decide)))
    have hput : insertLines index indent (Kind.hook.text tag) page = put page tag .hook :=
      Option.some.inj hnew
    rw [← hput, importCount_insertLines, hlines]
    simp only [List.map_cons, List.map_nil, List.countP_singleton, himp.mentions_hookRow ht,
      Bool.false_eq_true, if_false, Nat.add_zero]
  · rw [put_of_not_added h]

/-- The popup element parts a line of the page that has an import on both sides. -/
def Torn (page imp : Text) : Prop :=
  ∃ a b, page = a ++ b ∧ popupSlot page = .ok (.offset (octets a))
    ∧ (∃ x ∈ a.lines.getLast?, x.mentions imp = true) ∧ ∃ y ∈ b.lines.head?, y.mentions imp = true

/-- The line that the popup element parts counts once before, and each half of it counts
    afterwards. -/
theorem importCount_popup (himp : ImportLike imp) (ht : tag.isSolid = true) {a b x y : Text}
    {front back : List Text} (hcloses : closesPage b = true) (ha : a.lines = front ++ [x])
    (hb : b.lines = y :: back) :
    ∃ others, importCount (a ++ b) imp = others + (x.mentions imp || y.mentions imp).toNat
      ∧ importCount (a ++ (popupElement tag ++ b)) imp
        = others + ((x.mentions imp).toNat + (y.mentions imp).toNat) := by
  rcases lines_popup (Text.notMem_of_isSolid ht (by decide)) ha hb with ⟨hpage, hnew⟩
  have hquiet : (popupLines tag).countP (·.mentions imp) = 0 := by
    rw [List.countP_eq_zero]
    intro line hline
    rw [himp.mentions_popupLine ht hline]
    exact Bool.false_ne_true
  have hwhole : (x ++ y).mentions imp = (x.mentions imp || y.mentions imp) :=
    himp.mentions_append (breaks_of_closesPage hcloses) (Text.prefix_of_cut hb)
  refine ⟨front.countP (·.mentions imp) + back.countP (·.mentions imp), ?_, ?_⟩
  · rw [importCount, hpage, List.countP_append, countP_mentions_cons, hwhole]
    omega
  · rw [importCount, hnew, List.countP_append, countP_mentions_cons, List.countP_append, hquiet,
      countP_mentions_cons]
    omega

theorem torn_iff {a b x y : Text} {front back : List Text}
    (hslot : popupSlot (a ++ b) = .ok (.offset (octets a))) (ha : a.lines = front ++ [x])
    (hb : b.lines = y :: back) :
    Torn (a ++ b) imp ↔ x.mentions imp = true ∧ y.mentions imp = true := by
  have hlast : a.lines.getLast? = some x := by rw [ha, List.getLast?_concat]
  have hhead : b.lines.head? = some y := by rw [hb, List.head?_cons]
  constructor
  · rintro ⟨a', b', hpage, hslot', ⟨x', hx', hx⟩, y', hy', hy⟩
    -- the slot says where the page is parted
    rw [hslot, Except.ok.injEq, Slot.offset.injEq] at hslot'
    rcases append_inj_of_octets hpage hslot' with ⟨rfl, rfl⟩
    rw [hlast] at hx'
    rw [hhead] at hy'
    exact ⟨Option.some.inj hx' ▸ hx, Option.some.inj hy' ▸ hy⟩
  · rintro ⟨hx, hy⟩
    exact ⟨a, b, rfl, hslot, ⟨x, hlast, hx⟩, y, hhead, hy⟩

/-- Once the popup element is in, an import is on one line at most if it was before, and was
    not torn. -/
theorem importCount_component_le_iff (himp : ImportLike imp) (ht : tag.isSolid = true)
    (h : (add page .component tag).2 = .added) :
    importCount (put page tag .component) imp ≤ 1 ↔ importCount page imp ≤ 1 ∧ ¬ Torn page imp := by
  rcases added_inversion (Prod.ext rfl h) with ⟨hno, slot, hslot, -⟩
  rcases popupSlot_eq_ok hslot with ⟨a, b, rfl, rfl, hcloses⟩
  rcases Text.exists_cut_concat '\n' a with ⟨front, x, ha⟩
  rcases Text.exists_cut_cons '\n' b with ⟨y, back, hb⟩
  -- only the line that is parted counts differently, and only with both halves
  rcases importCount_popup himp ht hcloses ha hb with ⟨others, hbefore, hafter⟩
  rw [put, add_popup hno hslot, torn_iff hslot ha hb, hbefore, hafter]
  cases x.mentions imp <;> cases y.mentions imp <;> simp

/-- A step for the imports comes first, on the page as it is. -/
theorem imports_step_iff (page tag : Text) (wanted : Selection) (status : Status) :
    ⟨.imports, status⟩ ∈ (wire page tag wanted).steps
      ↔ wanted.imports = true ∧ (add page .imports tag).2 = status := by
  rcases wanted with ⟨imports, hook, component⟩
  cases imports with
  | false =>
      refine iff_of_false (fun hs => ?_) fun h => Bool.false_ne_true h.1
      exact Bool.false_ne_true (has_of_mem_steps hs)
  | true =>
      have hsteps : (wire page tag ⟨true, hook, component⟩).steps
          = ⟨.imports, (add page .imports tag).2⟩ :: (wireWith (put page tag .imports) tag
            ([Kind.hook, .component].filter (Selection.has ⟨true, hook, component⟩))).steps := rfl
      rw [hsteps, List.mem_cons]
      constructor
      · rintro (hs | hs)
        · exact ⟨rfl, (Step.mk.inj hs).2.symm⟩
        · -- the other steps are not about the imports
          have hother : Kind.imports ∉ [Kind.hook, .component] := by decide
          have hkind := List.mem_map_of_mem (f := Step.kind) hs
          rw [steps_wireWith] at hkind
          exact absurd (List.mem_filter.1 hkind).1 hother
      · rintro ⟨-, hstatus⟩
        exact Or.inl (congrArg (Step.mk .imports) hstatus.symm)

/-- A step for the popup element comes last. -/
theorem component_added_iff (page tag : Text) (wanted : Selection) :
    ⟨.component, .added⟩ ∈ (wire page tag wanted).steps
      ↔ wanted.component = true
        ∧ (add (wire page tag (beforePopup wanted)).content .component tag).2 = .added := by
  constructor
  · intro hs
    have hwanted : wanted.component = true := has_of_mem_steps hs
    refine ⟨hwanted, ?_⟩
    rw [(wire_component page tag hwanted).2, List.mem_append] at hs
    rcases hs with hs | hs
    · exact absurd (has_of_mem_steps hs) Bool.false_ne_true
    · exact (Step.mk.inj (List.mem_singleton.1 hs)).2.symm
  · rintro ⟨hwanted, hadded⟩
    rw [(wire_component page tag hwanted).2, hadded]
    exact List.mem_append_right _ List.mem_cons_self

/-- The imports give each import one line more, and the hook call gives it none. -/
theorem importCount_beforePopup (himp : ImportLike imp) (ht : tag.isSolid = true) (page : Text)
    (wanted : Selection) :
    importCount (wire page tag (beforePopup wanted)).content imp
      = importCount page imp
        + if ⟨.imports, .added⟩ ∈ (wire page tag wanted).steps then 1 else 0 := by
  have himports : ∀ hook component,
      importCount (put page tag .imports) imp = importCount page imp
        + if ⟨.imports, .added⟩ ∈ (wire page tag ⟨true, hook, component⟩).steps then 1 else 0 := by
    intro hook component
    by_cases hadded : (add page .imports tag).2 = .added
    · rw [importCount_imports himp hadded, if_pos ((imports_step_iff page tag _ _).2 ⟨rfl, hadded⟩)]
    · rw [put_of_not_added hadded,
        if_neg fun hs => hadded ((imports_step_iff page tag _ _).1 hs).2]
      rfl
  rcases wanted with ⟨imports, hook, component⟩
  -- the hook call comes after the imports, and leaves all counts as they are
  cases imports with
  | true =>
      cases hook with
      | true => exact (importCount_hook himp ht _).trans (himports true component)
      | false => exact himports false component
  | false =>
      rw [if_neg fun hs => Bool.false_ne_true ((imports_step_iff page tag _ _).1 hs).1]
      cases hook with
      | true => exact importCount_hook himp ht page
      | false => rfl

/-- After wiring, an import is on one line at most if it was when the popup element came, and
    was not torn by it. -/
theorem importCount_wire_le_iff (himp : ImportLike imp) (ht : tag.isSolid = true) (page : Text)
    (wanted : Selection) :
    importCount (wire page tag wanted).content imp ≤ 1
      ↔ importCount (wire page tag (beforePopup wanted)).content imp ≤ 1
        ∧ (⟨.component, .added⟩ ∈ (wire page tag wanted).steps →
          ¬ Torn (wire page tag (beforePopup wanted)).content imp) := by
  rw [component_added_iff]
  cases hwanted : wanted.component with
  | false =>
      -- then the run ends where the element would come
      have hsame : beforePopup wanted = wanted := by rw [beforePopup, ← hwanted]
      rw [hsame]
      exact (and_iff_left fun h => absurd h.1 Bool.false_ne_true).symm
  | true =>
      rw [(wire_component page tag hwanted).1]
      by_cases hadded : (add (wire page tag (beforePopup wanted)).content .component tag).2 = .added
      · rw [importCount_component_le_iff himp ht hadded]
        exact and_congr_right fun _ => ⟨fun h _ => h, fun h => h ⟨rfl, hadded⟩⟩
      · rw [put_of_not_added hadded]
        exact (and_iff_left fun h => absurd h.2 hadded).symm

/-- The imports go in only where the hook is not imported. -/
theorem importCount_hookImport_of_added (h : (add page .imports tag).2 = .added) :
    importCount page hookImport = 0 := by
  have hno := (added_inversion (Prod.ext rfl h)).1
  rw [importCount_eq_zero_iff]
  refine fun line hline => Bool.eq_false_iff.2 fun hmentions => ?_
  have hpage : hookImport <:+: page := by
    have hglue : line <:+: Text.glue '\n' page.lines := Text.infix_glue hline
    rw [Text.glue_cut] at hglue
    exact (Text.mentions_iff.1 hmentions).trans hglue
  -- the import of the hook holds both names that the guard looks for
  have hhook : hookName <:+: hookImport := Text.mentions_iff.1 (by decide)
  have hpopup : popupName <:+: hookImport := Text.mentions_iff.1 (by decide)
  have hhas : hasFragment page .imports tag = true := by
    simp only [hasFragment, Bool.and_eq_true]
    exact ⟨Text.mentions_iff.2 (hhook.trans hpage), Text.mentions_iff.2 (hpopup.trans hpage)⟩
  rw [hno] at hhas
  exact Bool.false_ne_true hhas

/-- Nothing is done to a page that repeats an import. -/
structure NoneRepeated (page tag : Text) (wanted : Selection) : Prop where
  /-- The imports do not go into a page that imports the popup. -/
  alone : ⟨.imports, .added⟩ ∈ (wire page tag wanted).steps →
    ∀ line ∈ page.lines, line.mentions popupImport = false
  /-- The popup element does not tear an import from a mention of the same import. -/
  whole : ⟨.component, .added⟩ ∈ (wire page tag wanted).steps →
    ¬ Torn (wire page tag (beforePopup wanted)).content hookImport
    ∧ ¬ Torn (wire page tag (beforePopup wanted)).content popupImport

theorem noneRepeated_iff {wanted : Selection} : NoneRepeated page tag wanted
    ↔ (⟨.imports, .added⟩ ∈ (wire page tag wanted).steps → importCount page popupImport = 0)
      ∧ (⟨.component, .added⟩ ∈ (wire page tag wanted).steps →
        ¬ Torn (wire page tag (beforePopup wanted)).content hookImport
        ∧ ¬ Torn (wire page tag (beforePopup wanted)).content popupImport) := by
  rw [importCount_eq_zero_iff]
  exact ⟨fun h => ⟨h.alone, h.whole⟩, fun h => ⟨h.1, h.2⟩⟩

/-- A page without a repeated import has none after wiring exactly if nothing was done to it
    that repeats one. A page that imports the hook does not get the imports. -/
theorem wire_clean_iff (ht : tag.isSolid = true) (hclean : clean page = page)
    (wanted : Selection) :
    (clean (wire page tag wanted).content = (wire page tag wanted).content
      ↔ NoneRepeated page tag wanted)
    ∧ ((∃ line ∈ page.lines, line.mentions hookImport = true) →
      ⟨.imports, .added⟩ ∉ (wire page tag wanted).steps) := by
  rcases (clean_eq_self_iff page).1 hclean with ⟨hhook, hpopup⟩
  -- a page that gets the imports has no import of the hook yet
  have hfresh : ⟨.imports, .added⟩ ∈ (wire page tag wanted).steps →
      importCount page hookImport = 0 := fun hs =>
    importCount_hookImport_of_added ((imports_step_iff page tag wanted _).1 hs).2
  refine ⟨?_, fun ⟨line, hline, hmentions⟩ hs => ?_⟩
  · rw [clean_eq_self_iff, importCount_wire_le_iff importLike_hookImport ht,
      importCount_wire_le_iff importLike_popupImport ht,
      importCount_beforePopup importLike_hookImport ht,
      importCount_beforePopup importLike_popupImport ht, noneRepeated_iff, imp_and,
      and_and_and_comm]
    refine and_congr_left fun _ => ?_
    by_cases hs : ⟨.imports, .added⟩ ∈ (wire page tag wanted).steps
    · -- then the hook's import is there once, and the popup's once more than before
      rw [if_pos hs, hfresh hs]
      simp [hs]
    · rw [if_neg hs]
      exact iff_of_true ⟨hhook, hpopup⟩ fun h => absurd h hs
  · rw [importCount_eq_zero_iff.1 (hfresh hs) line hline] at hmentions
    exact Bool.false_ne_true hmentions

theorem wire_clean_iff_plainPage :
    Text.isSolid "home".toList = true ∧ clean plainPage = plainPage
    ∧ (clean (wire plainPage "home".toList .all).content
        = (wire plainPage "home".toList .all).content
      ↔ NoneRepeated plainPage "home".toList .all)
    ∧ ((∃ line ∈ plainPage.lines, line.mentions hookImport = true) →
      ⟨.imports, .added⟩ ∉ (wire plainPage "home".toList .all).steps) :=
  ⟨by decide, by decide +kernel, wire_clean_iff (by decide) (by decide +kernel) .all⟩

end

/-- A page that imports the popup, but not the hook. -/
def popupPage : Text := popupImport ++ ";\nexport function APage() \x7b\x7d\n".toList

/-- A page on one line, with the closing lines between two imports of the hook. -/
def tornPage : Text :=
  hookImport ++ "; ".toList ++ popupImport ++ "; </div> ); \x7d ".toList ++ hookImport ++ [';']

/-- The first page gets the import of the popup once more. The second one is parted between
    the imports of the hook. -/
theorem imports_repeated :
    Text.isSolid "home".toList = true
    ∧ (clean popupPage = popupPage
      ∧ clean (wire popupPage "home".toList .all).content
        ≠ (wire popupPage "home".toList .all).content)
    ∧ clean tornPage = tornPage
    ∧ clean (wire tornPage "home".toList .all).content
      ≠ (wire tornPage "home".toList .all).content :=
  ⟨by decide, ⟨by decide +kernel, by decide +kernel⟩, by decide +kernel, by decide +kernel⟩

end Page

end HelpWiring
