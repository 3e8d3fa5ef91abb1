import HelpWiring.Proofs.Page.Placement

/-!
# Well-Shaped Pages

A page with its imports at the top, a hook site in the page function below them
and its closing lines below that gets all three fragments, each at the place
that the bare page had for it. The page is taken apart at these three places.
Then each step is a step on parts, and what the next step needs is that its
anchor has moved with the part that it is in: the hook site by two lines, the
closing lines by the octets of what came in above them.

No step makes another one superfluous. The imports show neither of the other
fragments, and the hook call does not show the popup element. So in the end the
page calls its hook once and hands its tag over once.

## Main definitions

* `Page.WellShaped`: A page with all anchors in order and no fragment.
* `Page.Parts`: Such a page, taken apart.
* `Page.filled`: The parts with the fragments between them.

## Theorems

* `WellShaped.parts`: A well-shaped page can be taken apart.
* `add_imports_parts`, `add_hook_parts`, `add_popup_parts`: The three steps.
* `occurrences_filled`: How often the filled page shows a fragment.
* `wire_wellShaped`: Wiring fills the page.
-/

namespace HelpWiring

namespace Page

/-- A page without the fragments that has all anchors, in order: line `i` is the first
    that imports, the page function opens further down, in line `start`, the hook site is
    line `index`, and the closing lines begin no earlier than that line, after `closing`
    octets. -/
structure WellShaped (page tag : Text) (i start index indent closing : Nat) : Prop where
  bare : ∀ kind, hasFragment page kind tag = false
  imported : page.lines.findIdx? isImportLine = some i
  opened : pageLine page = some start
  above : i < start
  site : hookSlot page = .ok (.line index indent)
  closed : popupSlot page = .ok (.offset closing)
  below : lineStart page index ≤ closing

/-- A page, taken apart below its first import, above its hook site and in front of its
    closing lines. -/
structure Parts (page : Text) (i index closing : Nat) (front middle : List Text)
    (p₃ p₄ : Text) : Prop where
  page_eq : page = Text.rows front ++ (Text.rows middle ++ (p₃ ++ p₄))
  front_eq : front = page.lines.take (i + 1)
  middle_eq : front ++ middle = page.lines.take index
  index_eq : (front ++ middle).length = index
  closing_eq : octets (Text.rows front ++ (Text.rows middle ++ p₃)) = closing

/-- The lines above the hook site once the imports are there. -/
def upper (front middle : List Text) : List Text := front ++ (importLines.lines ++ middle)

/-- Four parts of a page with the three fragments between them. -/
def filled (p₁ p₂ p₃ p₄ : Text) (indent : Nat) (tag : Text) : Text :=
  p₁ ++ (importRows ++ (p₂ ++ (hookRow indent tag ++ (p₃ ++ (popupElement tag ++ p₄)))))

section

variable {page tag : Text} {i start index indent closing : Nat}

theorem WellShaped.parts (h : WellShaped page tag i start index indent closing) :
    ∃ front middle p₃ p₄, Parts page i index closing front middle p₃ p₄ := by
  rcases hookSite_of_line h.site with ⟨start', line, hsite, -⟩
  obtain rfl : start = start' := Option.some.inj (h.opened.symm.trans hsite.opened)
  have hlt : index < page.lines.length := (List.getElem?_eq_some_iff.1 hsite.here).1
  -- the first import is above the page function, which is not below the hook site
  have hi : i + 1 ≤ index := Nat.lt_of_lt_of_le h.above hsite.low
  rcases popupSlot_eq_ok h.closed with ⟨a, b, hpage, hclosing, -⟩
  rw [Slot.offset.injEq] at hclosing
  have hbelow : octets (Text.rows (page.lines.take index)) ≤ octets a := hclosing ▸ h.below
  rcases split_of_octets_le ((Text.eq_rows_append hlt).symm.trans hpage) hbelow with ⟨p₃, ha, -⟩
  have hmiddle : page.lines.take (i + 1) ++ (page.lines.take index).drop (i + 1)
      = page.lines.take index := by
    have hcut := List.take_append_drop (i + 1) (page.lines.take index)
    rwa [List.take_take, Nat.min_eq_left hi] at hcut
  refine ⟨page.lines.take (i + 1), (page.lines.take index).drop (i + 1), p₃, b, ?_, rfl,
    hmiddle, ?_, ?_⟩
  · rw [← List.append_assoc, ← Text.rows_append, hmiddle, ← List.append_assoc, ← ha]
    exact hpage
  · rw [hmiddle, List.length_take, Nat.min_eq_left (Nat.le_of_lt hlt)]
  · rw [← List.append_assoc, ← Text.rows_append, hmiddle, ← ha, hclosing]

variable {front middle : List Text} {p₃ p₄ : Text}

theorem Parts.feedless (hp : Parts page i index closing front middle p₃ p₄) :
    ∀ line ∈ front ++ middle, '\n' ∉ line := by
  intro line hline
  rw [hp.middle_eq] at hline
  exact Text.notMem_of_mem_cut (List.mem_of_mem_take hline)

theorem Parts.length_front (hp : Parts page i index closing front middle p₃ p₄)
    (h : WellShaped page tag i start index indent closing) : front.length = i + 1 := by
  have hlt := (List.findIdx?_eq_some_iff_getElem.1 h.imported).1
  rw [hp.front_eq, List.length_take, Nat.min_eq_left hlt]

/-- The lines of a page in parts, and those of the page with the imports in it. -/
theorem Parts.lines (hp : Parts page i index closing front middle p₃ p₄) :
    page.lines = front ++ (middle ++ (p₃ ++ p₄).lines)
    ∧ (Text.rows front ++ (importRows ++ (Text.rows middle ++ (p₃ ++ p₄)))).lines
      = front ++ (importLines.lines ++ (middle ++ (p₃ ++ p₄).lines)) := by
  have hfeed := List.forall_mem_append.1 hp.feedless
  have himport : ∀ line ∈ importLines.lines, '\n' ∉ line := fun _ => Text.notMem_of_mem_cut
  have hpage := congrArg Text.lines hp.page_eq
  rw [Text.lines_rows_append hfeed.1, Text.lines_rows_append hfeed.2] at hpage
  refine ⟨hpage, ?_⟩
  rw [← rows_importLines, Text.lines_rows_append hfeed.1, Text.lines_rows_append himport,
    Text.lines_rows_append hfeed.2]

/-- The imports go below the first part. -/
theorem add_imports_parts (hp : Parts page i index closing front middle p₃ p₄)
    (h : WellShaped page tag i start index indent closing) :
    add page .imports tag
      = (Text.rows front ++ (importRows ++ (Text.rows middle ++ (p₃ ++ p₄))), .added) := by
  have hslot : findSlot page .imports = .ok (.line front.length 0) := by
    rw [hp.length_front h, findSlot, importSlot, h.imported]
  have hno := h.bare .imports
  have hfeed := (List.forall_mem_append.1 hp.feedless).1
  have hpage := hp.page_eq
  -- what is below does not matter to this step
  generalize Text.rows middle ++ (p₃ ++ p₄) = rest at hpage ⊢
  subst hpage
  rw [add_rows hfeed hno hslot, rows_imports]

/-- With the imports in it, the page has its hook site two lines further down. -/
theorem hookSlot_parts (hp : Parts page i index closing front middle p₃ p₄)
    (h : WellShaped page tag i start index indent closing) :
    hookSlot (Text.rows front ++ (importRows ++ (Text.rows middle ++ (p₃ ++ p₄))))
      = .ok (.line (index + 2) indent) := by
  have hopens : ∀ line ∈ importLines.lines, Text.someSuffix opensPage line = false := fun l hl =>
    (quiet_importLines l hl).1
  have habove : front.length ≤ start := hp.length_front h ▸ h.above
  exact hookSlot_insert hp.lines.1 hp.lines.2 hopens h.opened habove h.site

theorem rows_upper (front middle : List Text) (rest : Text) :
    Text.rows (upper front middle) ++ rest
      = Text.rows front ++ (importRows ++ (Text.rows middle ++ rest)) := by
  rw [upper, Text.rows_append, Text.rows_append, rows_importLines]
  simp only [List.append_assoc]

/-- The closing lines are further down by the imports. -/
theorem popupSlot_parts (hp : Parts page i index closing front middle p₃ p₄)
    (h : WellShaped page tag i start index indent closing) :
    popupSlot (Text.rows (upper front middle) ++ (p₃ ++ p₄))
      = .ok (.offset (octets (Text.rows (upper front middle) ++ p₃))) := by
  have hfront : front ≠ [] := List.ne_nil_of_length_pos (by rw [hp.length_front h]; omega)
  have hclosed := h.closed
  rw [hp.page_eq, ← hp.closing_eq, ← List.append_assoc (Text.rows middle)] at hclosed
  rw [rows_upper, rows_upper, ← List.append_assoc (Text.rows middle)]
  exact popupSlot_rows harmless_imports (fun hnil => absurd hnil hfront) hclosed

/-- The imports show no other fragment. -/
theorem not_hasFragment_parts (ht : tag.isSolid = true)
    (hp : Parts page i index closing front middle p₃ p₄)
    (h : WellShaped page tag i start index indent closing) {kind : Kind} (hkind : kind ≠ .imports) :
    hasFragment (Text.rows (upper front middle) ++ (p₃ ++ p₄)) kind tag = false := by
  rw [rows_upper]
  refine not_hasFragment_walled (walled_importRows front _) (Or.inr ht) ?_
    (not_hasFragment_importRows hkind tag)
  exact hp.page_eq ▸ h.bare kind

/-- The hook call goes below the second part. -/
theorem add_hook_parts (ht : tag.isSolid = true)
    (hp : Parts page i index closing front middle p₃ p₄)
    (h : WellShaped page tag i start index indent closing) :
    add (Text.rows (upper front middle) ++ (p₃ ++ p₄)) .hook tag
      = (Text.rows (upper front middle) ++ (hookRow indent tag ++ (p₃ ++ p₄)), .added) := by
  have hline : '\n' ∉ tag := Text.notMem_of_isSolid ht (by decide)
  have hfeed := List.forall_mem_append.1 hp.feedless
  have himport : ∀ line ∈ importLines.lines, '\n' ∉ line := fun _ => Text.notMem_of_mem_cut
  have hlength : (upper front middle).length = index + 2 := by
    have hindex := hp.index_eq
    rw [List.length_append] at hindex
    rw [upper, List.length_append, List.length_append,
      show importLines.lines.length = 2 by decide]
    omega
  have hslot : findSlot (Text.rows (upper front middle) ++ (p₃ ++ p₄)) .hook
      = .ok (.line (upper front middle).length indent) := by
    rw [hlength, rows_upper]
    exact hookSlot_parts hp h
  rw [add_rows _ (not_hasFragment_parts ht hp h (by decide)) hslot, rows_hook hline]
  exact List.forall_mem_append.2 ⟨hfeed.1, List.forall_mem_append.2 ⟨himport, hfeed.2⟩⟩

/-- The popup element goes behind the third part. -/
theorem add_popup_parts (ht : tag.isSolid = true)
    (hp : Parts page i index closing front middle p₃ p₄)
    (h : WellShaped page tag i start index indent closing) :
    add (Text.rows (upper front middle) ++ (hookRow indent tag ++ (p₃ ++ p₄))) .component tag
      = (filled (Text.rows front) (Text.rows middle) p₃ p₄ indent tag, .added) := by
  have habove : upper front middle ≠ [] :=
    List.append_ne_nil_of_right_ne_nil _
      (List.append_ne_nil_of_left_ne_nil (Text.cut_ne_nil '\n' importLines) _)
  have hslot := popupSlot_rows (harmless_hook ht indent) (fun hnil => absurd hnil habove)
    (popupSlot_parts hp h)
  have hno : hasFragment (Text.rows (upper front middle) ++ (hookRow indent tag ++ (p₃ ++ p₄)))
      .component tag = false :=
    not_hasFragment_walled (walled_hookRow _ _ _ _) (Or.inr ht)
      (not_hasFragment_parts ht hp h (by decide)) (not_hasFragment_hookRow ht indent)
  have hassoc : Text.rows (upper front middle) ++ (hookRow indent tag ++ (p₃ ++ p₄))
      = (Text.rows (upper front middle) ++ (hookRow indent tag ++ p₃)) ++ p₄ := by
    simp only [List.append_assoc]
  rw [hassoc] at hno ⊢
  rw [add_popup hno (by rw [← hassoc]; exact hslot)]
  simp only [filled, ← rows_upper, List.append_assoc]

/-- The filled page shows what the page and the three fragments show. -/
theorem occurrences_filled {sign : Text} (hsolid : sign.isSolid = true)
    (hclose : closesPage p₄ = true) :
    sign.occurrences (filled (Text.rows front) (Text.rows middle) p₃ p₄ indent tag)
      = sign.occurrences (Text.rows front ++ (Text.rows middle ++ (p₃ ++ p₄)))
        + sign.occurrences importRows + sign.occurrences (hookRow indent tag)
        + sign.occurrences (popupElement tag) := by
  -- the element is taken out first, then the hook call, then the imports
  have hassoc : filled (Text.rows front) (Text.rows middle) p₃ p₄ indent tag
      = (Text.rows (upper front middle) ++ (hookRow indent tag ++ p₃))
        ++ (popupElement tag ++ p₄) := by
    simp only [filled, rows_upper, List.append_assoc]
  have hback : (Text.rows (upper front middle) ++ (hookRow indent tag ++ p₃)) ++ p₄
      = Text.rows (upper front middle) ++ (hookRow indent tag ++ (p₃ ++ p₄)) := by
    simp only [List.append_assoc]
  rw [hassoc, occurrences_walled (walled_popup tag hclose) hsolid, hback,
    occurrences_walled (walled_hookRow _ _ _ _) hsolid, rows_upper,
    occurrences_walled (walled_importRows _ _) hsolid]

/-- A well-shaped page gets all three fragments, each between two parts of the page, and
    in the end it has each of the two that name the tag once. -/
theorem wire_wellShaped (ht : tag.isSolid = true)
    (h : WellShaped page tag i start index indent closing) :
    ∃ p₁ p₂ p₃ p₄, page = p₁ ++ (p₂ ++ (p₃ ++ p₄))
      ∧ p₁ = Text.rows (page.lines.take (i + 1))
      ∧ p₁ ++ p₂ = Text.rows (page.lines.take index)
      ∧ octets (p₁ ++ (p₂ ++ p₃)) = closing
      ∧ (page.lines[index]?).map Text.indent = some indent
      ∧ wire page tag .all = ⟨filled p₁ p₂ p₃ p₄ indent tag,
          [⟨.imports, .added⟩, ⟨.hook, .added⟩, ⟨.component, .added⟩]⟩
      ∧ (hookCall '\'' tag).occurrences (wire page tag .all).content = 1
      ∧ (keyAttribute '"' tag).occurrences (wire page tag .all).content = 1 := by
  rcases h.parts with ⟨front, middle, p₃, p₄, hp⟩
  have hwire : wire page tag .all = ⟨filled (Text.rows front) (Text.rows middle) p₃ p₄ indent tag,
      [⟨.imports, .added⟩, ⟨.hook, .added⟩, ⟨.component, .added⟩]⟩ := by
    have hkinds : Selection.all.kinds = [.imports, .hook, .component] := by decide
    simp only [wire, hkinds, wireWith, add_imports_parts hp h, ← rows_upper,
      add_hook_parts ht hp h, add_popup_parts ht hp h]
  have hindent : (page.lines[index]?).map Text.indent = some indent := by
    rcases hookSite_of_line h.site with ⟨_, line, hsite, rfl⟩
    rw [hsite.here, Option.map_some]
  have hclose : closesPage p₄ = true := by
    have hclosed := h.closed
    rw [hp.page_eq, ← hp.closing_eq, ← List.append_assoc (Text.rows middle),
      ← List.append_assoc (Text.rows front)] at hclosed
    exact (popupSlot_append_iff.1 hclosed).1
  have hnone : ∀ (kind : Kind) {sign : Text}, sign ∈ kind.signs tag → sign.occurrences page = 0 := by
    intro kind sign hsign
    exact (Text.occurrences_eq_zero_iff (sign_ne_nil hsign)).2
      (hasFragment_eq_false_iff.1 (h.bare kind) sign hsign)
  refine ⟨_, _, p₃, p₄, hp.page_eq, by rw [hp.front_eq], ?_, hp.closing_eq, hindent, hwire, ?_, ?_⟩
  · rw [← Text.rows_append, hp.middle_eq]
  -- none in the bare page, and one in the fragment that the sign is of
  · rw [hwire, occurrences_filled (isSolid_hookCall (by decide) ht) hclose, ← hp.page_eq,
      hnone .hook List.mem_cons_self,
      occurrences_of_mem (mem_paren_hookCall '\'' tag) (by decide), occurrences_hookRow ht,
      occurrences_hookCall_popupElement ht (by decide)]
  · rw [hwire, occurrences_filled (isSolid_keyAttribute (by decide) ht) hclose, ← hp.page_eq,
      hnone .component List.mem_cons_self,
      occurrences_of_mem (mem_K_keyAttribute '"' tag) (by decide),
      occurrences_keyAttribute_hookRow ht (by decide), occurrences_popupElement ht]

end

/-- A page of eight lines with all anchors. -/
def plainPage : Text :=
  "import a\nexport function APage() \x7b\n  const [x] = f();\n".toList
    ++ "  return (\n    <div>\n    </div>\n  );\n\x7d\n".toList

theorem wellShaped_plainPage : WellShaped plainPage "home".toList 0 1 2 2 74 where
  bare kind := by cases kind <;> decide +kernel
  imported := by decide +kernel
  opened := by decide +kernel
  above := by decide
  site := by decide +kernel
  closed := by decide +kernel
  below := by decide +kernel

theorem wire_wellShaped_plainPage :
    Text.isSolid "home".toList = true
    ∧ WellShaped plainPage "home".toList 0 1 2 2 74
    ∧ ∃ p₁ p₂ p₃ p₄, plainPage = p₁ ++ (p₂ ++ (p₃ ++ p₄))
      ∧ p₁ = Text.rows (plainPage.lines.take 1)
      ∧ p₁ ++ p₂ = Text.rows (plainPage.lines.take 2)
      ∧ octets (p₁ ++ (p₂ ++ p₃)) = 74
      ∧ (plainPage.lines[2]?).map Text.indent = some 2
      ∧ wire plainPage "home".toList .all = ⟨filled p₁ p₂ p₃ p₄ 2 "home".toList,
          [⟨.imports, .added⟩, ⟨.hook, .added⟩, ⟨.component, .added⟩]⟩
      ∧ (hookCall '\'' "home".toList).occurrences (wire plainPage "home".toList .all).content = 1
      ∧ (keyAttribute '"' "home".toList).occurrences (wire plainPage "home".toList .all).content
        = 1 :=
  ⟨by decide, wellShaped_plainPage, wire_wellShaped (by decide) wellShaped_plainPage⟩

end Page

end HelpWiring
