import HelpWiring.Proofs.Page.Fragment
import HelpWiring.Proofs.Text.Occurrence
import HelpWiring.Proofs.Text.Rows

/-!
# What Shows a Fragment

A guard looks for a few texts, the signs of its fragment, and any one of them
will do. The guard of the imports asks for two names, but the one is part of
the other, so the name of the hook is its only sign.

A block that is put between blanks adds its own signs to those of the page and
no others. Which signs a fragment has of the other two is settled here. The
lines of the imports have none. The hook call has the sign of the imports and
not that of the popup element, and the popup element has not that of the hook
call. It has the sign of the imports just if the tag has it.

## Main definitions

* `Kind.signs`: The signs of a fragment.
* `Walled`: A block between blanks.
* `hookRow`, `importRows`: The hook call and the imports as rows of a page.
* `Kind.quoting?`: What a fragment has around the quotes of its tag.

## Theorems

* `hasFragment_iff`: A page has a fragment if it has one of its signs.
* `hasFragment_walled`: The signs of a page with a block in it.
* `not_hasFragment_importRows`, `not_hasFragment_hookRow`,
  `not_hasFragment_popupElement`, `hasFragment_imports_popupElement_iff`: The
  signs of other fragments.
* `occurrences_hookRow`, `occurrences_popupElement`: The signs of their own.
* `popupElement_eq_rows`: The popup element as rows.
* `Kind.text_eq_around`: A fragment by its tag and what is around it.
-/

namespace HelpWiring

/-- The texts each of which shows that a page has a fragment. -/
def Kind.signs : Kind → Text → List Text
  | imports, _ => [hookName]
  | hook, tag => [hookCall '\'' tag, hookCall '"' tag]
  | component, tag => [keyAttribute '"' tag, keyAttribute '\'' tag]

theorem hasFragment_iff {page tag : Text} {kind : Kind} :
    hasFragment page kind tag = true ↔ ∃ sign ∈ kind.signs tag, sign <:+: page := by
  cases kind with
  | imports =>
      have hpopup : popupName <:+: hookName := Text.mentions_iff.1 (by decide)
      simp only [hasFragment, Kind.signs, Bool.and_eq_true, Text.mentions_iff, List.mem_singleton,
        exists_eq_left]
      exact and_iff_left_of_imp fun hhook => hpopup.trans hhook
  | hook =>
      simp only [hasFragment, Kind.signs, Bool.or_eq_true, Text.mentions_iff, List.mem_cons,
        List.not_mem_nil, or_false, exists_eq_or_imp, exists_eq_left]
  | component =>
      simp only [hasFragment, Kind.signs, Bool.or_eq_true, Text.mentions_iff, List.mem_cons,
        List.not_mem_nil, or_false, exists_eq_or_imp, exists_eq_left]

theorem hasFragment_eq_false_iff {page tag : Text} {kind : Kind} :
    hasFragment page kind tag = false ↔ ∀ sign ∈ kind.signs tag, ¬ sign <:+: page := by
  rw [← Bool.not_eq_true, hasFragment_iff]
  simp only [not_exists, not_and]

theorem mem_signs_hook {tag sign : Text} (h : sign ∈ Kind.hook.signs tag) :
    ∃ quote, isBlank quote = false ∧ sign = hookCall quote tag := by
  rcases List.mem_cons.1 h with rfl | h
  · exact ⟨'\'', by decide, rfl⟩
  · exact ⟨'"', by decide, List.mem_singleton.1 h⟩

theorem mem_signs_component {tag sign : Text} (h : sign ∈ Kind.component.signs tag) :
    ∃ quote, isBlank quote = false ∧ sign = keyAttribute quote tag := by
  rcases List.mem_cons.1 h with rfl | h
  · exact ⟨'"', by decide, rfl⟩
  · exact ⟨'\'', by decide, List.mem_singleton.1 h⟩

/-- A sign is some text, without blanks if the tag has none. -/
theorem sign_ne_nil {kind : Kind} {tag sign : Text} (h : sign ∈ kind.signs tag) : sign ≠ [] := by
  cases kind with
  | imports =>
      rw [List.mem_singleton.1 h]
      decide
  | hook =>
      rcases mem_signs_hook h with ⟨quote, -, rfl⟩
      exact List.cons_ne_nil _ _
  | component =>
      rcases mem_signs_component h with ⟨quote, -, rfl⟩
      exact List.cons_ne_nil _ _

theorem isSolid_sign {kind : Kind} {tag sign : Text} (ht : kind = .imports ∨ tag.isSolid = true)
    (h : sign ∈ kind.signs tag) : sign.isSolid = true := by
  cases kind with
  | imports =>
      rw [List.mem_singleton.1 h]
      decide
  | hook =>
      rcases mem_signs_hook h with ⟨quote, hquote, rfl⟩
      exact isSolid_hookCall hquote (ht.resolve_left (by decide))
  | component =>
      rcases mem_signs_component h with ⟨quote, hquote, rfl⟩
      exact isSolid_keyAttribute hquote (ht.resolve_left (by decide))

/-- A block between two parts of a page, with blanks wherever one of the three meets
    another. -/
structure Walled (a block b : Text) : Prop where
  torn : Text.Gapped a b
  front : Text.Gapped a (block ++ b)
  back : Text.Gapped block b

/-- A page with a block in it has the signs of the page and those of the block. -/
theorem hasFragment_walled {a block b tag : Text} {kind : Kind} (hwalled : Walled a block b)
    (ht : kind = .imports ∨ tag.isSolid = true) :
    hasFragment (a ++ (block ++ b)) kind tag = true
      ↔ hasFragment (a ++ b) kind tag = true ∨ hasFragment block kind tag = true := by
  simp only [hasFragment_iff]
  rw [← exists_or]
  refine exists_congr fun sign => ?_
  rw [← and_or_left]
  refine and_congr_right fun hsign => ?_
  have hne := sign_ne_nil hsign
  have hsolid := isSolid_sign ht hsign
  rw [Text.infix_append_iff hne (hwalled.front.parted hsolid),
    Text.infix_append_iff hne (hwalled.back.parted hsolid),
    Text.infix_append_iff hne (hwalled.torn.parted hsolid), or_assoc, or_comm (a := sign <:+: b)]

theorem occurrences_walled {a block b sign : Text} (hwalled : Walled a block b)
    (hsolid : sign.isSolid = true) :
    sign.occurrences (a ++ (block ++ b)) = sign.occurrences (a ++ b) + sign.occurrences block := by
  rw [Text.occurrences_append (hwalled.front.parted hsolid),
    Text.occurrences_append (hwalled.back.parted hsolid),
    Text.occurrences_append (hwalled.torn.parted hsolid)]
  omega

theorem not_hasFragment_walled {a block b tag : Text} {kind : Kind} (hwalled : Walled a block b)
    (ht : kind = .imports ∨ tag.isSolid = true) (h : hasFragment (a ++ b) kind tag = false)
    (hblock : hasFragment block kind tag = false) :
    hasFragment (a ++ (block ++ b)) kind tag = false := by
  rw [← Bool.not_eq_true] at h hblock ⊢
  rw [hasFragment_walled hwalled ht]
  exact not_or.2 ⟨h, hblock⟩

/-- The import lines as rows of a page. -/
def importRows : Text := importLines ++ ['\n']

/-- The hook call as a row of a page. -/
def hookRow (indent : Nat) (tag : Text) : Text := indented indent (hookLine tag) ++ ['\n']

theorem hookRow_eq (indent : Nat) (tag : Text) :
    hookRow indent tag
      = indented indent "const helpPopup = ".toList
        ++ ((hookCall '\'' tag ++ [';']) ++ ['\n']) := by
  rw [hookRow, hookLine_eq, indented, indented]
  simp only [List.append_assoc]

/-- The popup element as rows, behind the line feed that it starts with. -/
theorem popupElement_eq_rows (tag : Text) :
    popupElement tag = '\n' :: Text.rows (popupLines tag) := by
  have hlines : popupLines tag ≠ [] := List.cons_ne_nil _ _
  rw [popupElement_eq_unlines, Text.rows_eq_unlines hlines, Text.unlines,
    Text.glue_cons (List.append_ne_nil_of_left_ne_nil hlines _),
    Text.glue_append hlines (List.cons_ne_nil [] [])]
  rfl

theorem not_infix_of_mem {piece t : Text} {c : Char} (hpiece : c ∈ piece) (ht : c ∉ t) :
    ¬ piece <:+: t :=
  fun h => ht (h.mem hpiece)

theorem mem_paren_hookCall (quote : Char) (tag : Text) : '(' ∈ hookCall quote tag := by
  rw [hookCall_eq]
  exact List.mem_append_left _ (by decide)

theorem mem_K_keyAttribute (quote : Char) (tag : Text) : 'K' ∈ keyAttribute quote tag := by
  rw [keyAttribute_eq]
  exact List.mem_append_left _ (by decide)

theorem length_hookCall (quote : Char) (tag : Text) :
    (hookCall quote tag).length = tag.length + 16 := by
  have hname : "useHelpPopup(".toList.length = 13 := by decide
  rw [hookCall_eq, List.length_append, hname]
  simp only [List.length_cons, List.length_append, List.length_nil]
  omega

theorem length_keyAttribute (quote : Char) (tag : Text) :
    (keyAttribute quote tag).length = tag.length + 10 := by
  have hname : "pageKey=".toList.length = 8 := by decide
  rw [keyAttribute_eq, List.length_append, hname]
  simp only [List.length_cons, List.length_append, List.length_nil]
  omega

/-- The import lines show neither of the other fragments. -/
theorem not_hasFragment_importRows {kind : Kind} (hkind : kind ≠ .imports) (tag : Text) :
    hasFragment importRows kind tag = false := by
  have hparen : '(' ∉ importRows := by decide
  have hK : 'K' ∉ importRows := by decide
  rw [hasFragment_eq_false_iff]
  intro sign hsign
  cases kind with
  | imports => exact absurd rfl hkind
  | hook =>
      rcases mem_signs_hook hsign with ⟨quote, -, rfl⟩
      exact not_infix_of_mem (mem_paren_hookCall quote tag) hparen
  | component =>
      rcases mem_signs_component hsign with ⟨quote, -, rfl⟩
      exact not_infix_of_mem (mem_K_keyAttribute quote tag) hK

theorem not_hasFragment_importLines {kind : Kind} (hkind : kind ≠ .imports) (tag : Text) :
    hasFragment importLines kind tag = false := by
  have hrows := not_hasFragment_importRows hkind tag
  rw [hasFragment_eq_false_iff] at hrows ⊢
  exact fun sign hsign h => hrows sign hsign (h.trans List.infix_append_left)

/-- The attribute is a few characters shorter than the call, so in the call it would
    start within the name of the hook. -/
theorem not_keyAttribute_infix_hookCall (quote : Char) (tag : Text) :
    ¬ keyAttribute quote tag <:+: hookCall '\'' tag ++ [';'] := by
  rintro ⟨x, y, hxy⟩
  have hlength := congrArg List.length hxy
  simp only [List.length_append, length_keyAttribute, length_hookCall, List.length_singleton]
    at hlength
  -- so its first two letters would follow each other in that name
  have hstart : x ++ ['p', 'a'] <+: hookCall '\'' tag ++ [';'] := by
    rw [← hxy, keyAttribute_eq, List.append_assoc, List.append_assoc]
    exact List.prefix_append_right_inj x |>.2 ⟨"geKey=".toList ++ _, rfl⟩
  have hname : "useHelpPopup(".toList <+: hookCall '\'' tag ++ [';'] := by
    rw [hookCall_eq, List.append_assoc]
    exact List.prefix_append _ _
  have hshort : (x ++ ['p', 'a']).length ≤ "useHelpPopup(".toList.length := by
    rw [show "useHelpPopup(".toList.length = 13 by decide, List.length_append]
    simp only [List.length_cons, List.length_nil]
    omega
  have hin : ['p', 'a'] <:+: "useHelpPopup(".toList :=
    (List.suffix_append x _).isInfix.trans
      (List.prefix_of_prefix_length_le hstart hname hshort).isInfix
  exact absurd (Text.mentions_iff.2 hin) (by decide)

/-- A solid text in the row of the hook call is in front of the call or in it. -/
theorem occurrences_hookRow_parts {sign : Text} (hsolid : sign.isSolid = true) (indent : Nat)
    (tag : Text) :
    sign.occurrences (hookRow indent tag)
      = sign.occurrences (indented indent "const helpPopup = ".toList)
        + (sign.occurrences (hookCall '\'' tag ++ [';']) + sign.occurrences ['\n']) := by
  have hspace : Text.Gapped (indented indent "const helpPopup = ".toList)
      ((hookCall '\'' tag ++ [';']) ++ ['\n']) :=
    Text.Gapped.of_getLast? (c := ' ') (by decide) (by decide)
  have hfeed : Text.Gapped (hookCall '\'' tag ++ [';']) ['\n'] :=
    Text.Gapped.of_head? (b := ['\n']) (t := []) rfl (by decide)
  rw [hookRow_eq, Text.occurrences_append (hspace.parted hsolid),
    Text.occurrences_append (hfeed.parted hsolid)]

theorem notMem_hookRow_front {c : Char} (hspace : c ≠ ' ') (h : c ∉ "const helpPopup = ".toList)
    (indent : Nat) : c ∉ indented indent "const helpPopup = ".toList := by
  intro hc
  rcases List.mem_append.1 hc with hc | hc
  · exact hspace (List.eq_of_mem_replicate hc)
  · exact h hc

theorem occurrences_of_mem {piece t : Text} {c : Char} (hpiece : c ∈ piece) (ht : c ∉ t) :
    piece.occurrences t = 0 :=
  (Text.occurrences_eq_zero_iff (List.ne_nil_of_mem hpiece)).2 (not_infix_of_mem hpiece ht)

theorem occurrences_keyAttribute_hookRow {tag : Text} (ht : tag.isSolid = true) {quote : Char}
    (hquote : isBlank quote = false) (indent : Nat) :
    (keyAttribute quote tag).occurrences (hookRow indent tag) = 0 := by
  have hK := mem_K_keyAttribute quote tag
  have hfront : 'K' ∉ indented indent "const helpPopup = ".toList :=
    notMem_hookRow_front (by decide) (by decide) indent
  have hcall : (keyAttribute quote tag).occurrences (hookCall '\'' tag ++ [';']) = 0 :=
    (Text.occurrences_eq_zero_iff (List.ne_nil_of_mem hK)).2 (not_keyAttribute_infix_hookCall _ _)
  rw [occurrences_hookRow_parts (isSolid_keyAttribute hquote ht), occurrences_of_mem hK hfront,
    hcall, occurrences_of_mem hK (by decide)]

/-- The row of the hook call calls the hook once. -/
theorem occurrences_hookRow {tag : Text} (ht : tag.isSolid = true) (indent : Nat) :
    (hookCall '\'' tag).occurrences (hookRow indent tag) = 1 := by
  have hparen := mem_paren_hookCall '\'' tag
  have hfront : '(' ∉ indented indent "const helpPopup = ".toList :=
    notMem_hookRow_front (by decide) (by decide) indent
  have hcall : (hookCall '\'' tag).occurrences (hookCall '\'' tag ++ [';']) = 1 :=
    Text.occurrences_concat (by decide) _ ';'
  rw [occurrences_hookRow_parts (isSolid_hookCall (by decide) ht), occurrences_of_mem hparen hfront,
    hcall, occurrences_of_mem hparen (by decide)]

theorem not_hasFragment_hookRow {tag : Text} (ht : tag.isSolid = true) (indent : Nat) :
    hasFragment (hookRow indent tag) .component tag = false := by
  rw [hasFragment_eq_false_iff]
  intro sign hsign
  rw [← Text.occurrences_eq_zero_iff (sign_ne_nil hsign)]
  rcases mem_signs_component hsign with ⟨quote, hquote, rfl⟩
  exact occurrences_keyAttribute_hookRow ht hquote indent

/-- What stands before the attribute in the popup element. -/
def popupFront : Text := "\n      \x7b/* Help Popup */\x7d\n      <HelpPopup\n        ".toList

/-- What stands behind it. -/
def popupBack : Text :=
  "\n        isOpen=\x7bhelpPopup.isOpen\x7d\n        ".toList
    ++ "onClose=\x7bhelpPopup.closePopup\x7d\n      />\n".toList

theorem popupElement_parts (tag : Text) :
    popupElement tag = popupFront ++ (keyAttribute '"' tag ++ popupBack) :=
  popupElement_eq tag

/-- A solid text in the popup element is in the attribute or in the letters around it. -/
theorem occurrences_popupElement_parts {sign : Text} (hsolid : sign.isSolid = true) (tag : Text) :
    sign.occurrences (popupElement tag)
      = sign.occurrences popupFront
        + (sign.occurrences (keyAttribute '"' tag) + sign.occurrences popupBack) := by
  have hfront : Text.Gapped popupFront (keyAttribute '"' tag ++ popupBack) :=
    Text.Gapped.of_getLast? (a := []) (c := ' ') (by decide) (by decide)
  have hback : Text.Gapped (keyAttribute '"' tag) popupBack :=
    Text.Gapped.of_head? (c := '\n') (by decide) (by decide)
  rw [popupElement_parts, Text.occurrences_append (hfront.parted hsolid),
    Text.occurrences_append (hback.parted hsolid)]

theorem occurrences_hookCall_popupElement {tag : Text} (ht : tag.isSolid = true) {quote : Char}
    (hquote : isBlank quote = false) :
    (hookCall quote tag).occurrences (popupElement tag) = 0 := by
  have hparen := mem_paren_hookCall quote tag
  have hshort : (keyAttribute '"' tag).length < (hookCall quote tag).length := by
    rw [length_keyAttribute, length_hookCall]
    omega
  rw [occurrences_popupElement_parts (isSolid_hookCall hquote ht),
    occurrences_of_mem hparen (by decide), Text.occurrences_of_length_lt hshort,
    occurrences_of_mem hparen (by decide)]

/-- The popup element hands its tag over once. -/
theorem occurrences_popupElement {tag : Text} (ht : tag.isSolid = true) :
    (keyAttribute '"' tag).occurrences (popupElement tag) = 1 := by
  have hK := mem_K_keyAttribute '"' tag
  rw [occurrences_popupElement_parts (isSolid_keyAttribute (by decide) ht),
    occurrences_of_mem hK (by decide), Text.occurrences_self (List.ne_nil_of_mem hK),
    occurrences_of_mem hK (by decide)]

theorem not_hasFragment_popupElement {tag : Text} (ht : tag.isSolid = true) :
    hasFragment (popupElement tag) .hook tag = false := by
  rw [hasFragment_eq_false_iff]
  intro sign hsign
  rw [← Text.occurrences_eq_zero_iff (sign_ne_nil hsign)]
  rcases mem_signs_hook hsign with ⟨quote, hquote, rfl⟩
  exact occurrences_hookCall_popupElement ht hquote

/-- The popup element is taken for the imports if the tag names the hook, and only
    then. -/
theorem hasFragment_imports_popupElement_iff (tag : Text) :
    hasFragment (popupElement tag) .imports tag = true ↔ hookName <:+: tag := by
  -- down to the attribute, and from there to the tag between its quotes
  have hsolid : hookName.isSolid = true := by decide
  have hne : hookName ≠ [] := by decide
  have hfront : hookName.occurrences popupFront = 0 := by decide
  have hback : hookName.occurrences popupBack = 0 := by decide
  have hquote : '"' ∉ hookName := by decide
  rw [hasFragment_iff]
  simp only [Kind.signs, List.mem_singleton, exists_eq_left]
  have hattribute : hookName <:+: popupElement tag ↔ hookName <:+: keyAttribute '"' tag := by
    rw [← Decidable.not_iff_not, ← Text.occurrences_eq_zero_iff hne,
      ← Text.occurrences_eq_zero_iff hne, occurrences_popupElement_parts hsolid, hfront, hback,
      Nat.zero_add, Nat.add_zero]
  have hkey : ¬ hookName <:+: "pageKey=".toList := fun h =>
    absurd (Text.mentions_iff.2 h) (by decide)
  have hnil : ¬ hookName <:+: [] := fun h => hne (List.infix_nil.1 h)
  rw [hattribute, keyAttribute_eq, Text.infix_append_cons_iff hne hquote, or_iff_right hkey,
    Text.infix_append_cons_iff hne hquote, or_iff_left hnil]

/-- A text around a tag in quotes. -/
structure Quoting where
  front : Text
  quote : Char
  back : Text

namespace Quoting

/-- The text with the tag in it. -/
def around (q : Quoting) (tag : Text) : Text := q.front ++ q.quote :: (tag ++ q.quote :: q.back)

end Quoting

/-- What the fragments have around their tag. The imports have none. -/
def Kind.quoting? : Kind → Option Quoting
  | imports => none
  | hook => some ⟨"const helpPopup = ".toList ++ "useHelpPopup(".toList, '\'', ");".toList⟩
  | component => some ⟨popupFront ++ "pageKey=".toList, '"', popupBack⟩

theorem Kind.text_eq_around {kind : Kind} {q : Quoting} (h : kind.quoting? = some q)
    (tag : Text) : kind.text tag = q.around tag := by
  cases kind with
  | imports => cases h
  | hook =>
      obtain rfl := Option.some.inj h
      rw [Kind.text, hookLine_eq, hookCall_eq, Quoting.around]
      simp only [List.append_assoc, List.cons_append]
      rfl
  | component =>
      obtain rfl := Option.some.inj h
      rw [Kind.text, popupElement_parts, keyAttribute_eq, Quoting.around]
      simp only [List.append_assoc, List.cons_append, List.nil_append]

theorem Kind.exists_quoting {kind : Kind} (hkind : kind ≠ .imports) :
    ∃ q, kind.quoting? = some q := by
  cases kind with
  | imports => exact absurd rfl hkind
  | hook => exact ⟨_, rfl⟩
  | component => exact ⟨_, rfl⟩

end HelpWiring
