import HelpWiring.Proofs.Page.Imports
import HelpWiring.Proofs.Page.Pieces

/-!
# A Page That Names the Hook Alone

The guard of the imports asks for two names, as if a page that names the hook
alone should get its imports all the same. It does not: the name of the popup is
the end of the name of the hook, so a page with the one has the other. What
becomes of the imports depends on the name of the hook and on nothing else
(`imports_by_hookName`).

Such a page gets the popup element, but no import for it. To see that, follow
the import through the steps. Wiring does not tear an import, and does not make
one out of pieces either. So a wired page holds an import exactly if the page
did, or if a fragment that went in does. The hook call and the popup element
have no import around their tag.

## Main definitions

* `Page.PopupUnnamed`: The popup is named only inside the name of the hook.
* `hookedPage`: A page with the hook call and without the imports.

## Theorems

* `bracedPopup_infix_text`: What the other fragments hold of an import.
* `ImportLike.whole`, `infix_wireWith_iff`: An import after wiring.
* `ImportLike.eq_imports`: Of the fragments, only the imports hold one.
* `PopupUnnamed.not_import`: A page in which the popup is unnamed does not import it.
* `imports_by_hookName`: What becomes of the imports.
* `imports_skipped`: They do not get into `hookedPage`.
-/

namespace HelpWiring

/-- The name of the popup behind a brace, as its import has it. -/
def bracedPopup : Text := "\x7b HelpPopup".toList

/-- What these two hold of an import of the popup is in the tag. -/
theorem bracedPopup_infix_text {kind : Kind} {tag : Text} (hkind : kind ≠ .imports)
    (h : bracedPopup <:+: kind.text tag) : bracedPopup <:+: tag := by
  have hne : bracedPopup ≠ [] := by decide
  have haround : ∀ q, kind.quoting? = some q → q.quote ∉ bracedPopup
      ∧ q.front.mentions bracedPopup = false ∧ q.back.mentions bracedPopup = false := by
    intro q hq
    cases kind with
    | imports => exact absurd rfl hkind
    | hook =>
        obtain rfl := Option.some.inj hq
        exact ⟨by decide, by decide, by decide⟩
    | component =>
        obtain rfl := Option.some.inj hq
        exact ⟨by decide, by decide, by decide⟩
  rcases Kind.exists_quoting hkind with ⟨q, hq⟩
  rcases haround q hq with ⟨hquote, hfront, hback⟩
  rw [Kind.text_eq_around hq, Quoting.around, Text.infix_append_cons_iff hne hquote,
    Text.infix_append_cons_iff hne hquote, ← Text.mentions_iff, ← Text.mentions_iff (t := q.back),
    hfront, hback] at h
  exact (h.resolve_left Bool.false_ne_true).resolve_right Bool.false_ne_true

/-- An import is on one line. -/
theorem ImportLike.notMem_feed {imp : Text} (himp : ImportLike imp) : '\n' ∉ imp := by
  intro hfeed
  rcases List.append_of_mem hfeed with ⟨s, t, rfl⟩
  exact absurd (himp.behind_blank (by decide)).1 (by decide)

/-- Wiring does not tear an import, and does not make one out of pieces. -/
theorem ImportLike.whole {imp : Text} (himp : ImportLike imp) (hspace : imp.head? ≠ some ' ') :
    Whole imp where
  ne_nil := List.ne_nil_of_mem (himp.brace.subset List.mem_cons_self)
  notMem_feed := himp.notMem_feed
  unindented := hspace
  apart hb := himp.infix_or (breaks_of_closesPage hb) List.prefix_rfl

/-- Of the fragments, only the imports hold an import. -/
theorem ImportLike.eq_imports {imp tag : Text} (himp : ImportLike imp) (ht : tag.isSolid = true)
    {kind : Kind} (h : imp <:+: kind.text tag) : kind = .imports := by
  cases kind with
  | imports => rfl
  | hook =>
      have hno := himp.mentions_hookRow ht 0
      have hyes : (indented 0 (hookLine tag)).mentions imp = true := Text.mentions_iff.2 h
      rw [hno] at hyes
      exact absurd hyes Bool.false_ne_true
  | component => exact absurd h (pair_not_infix_popupElement ht himp.keyword)

namespace Page

/-- An import in a wired page was in the page, or came with a fragment. -/
theorem infix_wireWith_iff {imp : Text} (himp : ImportLike imp) (hspace : imp.head? ≠ some ' ')
    (page tag : Text) (kinds : List Kind) : imp <:+: (wireWith page tag kinds).content
      ↔ imp <:+: page ∨ ∃ kind, ⟨kind, .added⟩ ∈ (wireWith page tag kinds).steps
        ∧ imp <:+: kind.text tag :=
  (himp.whole hspace).infix_wireWith_iff page tag kinds

/-- The popup is named nowhere but in the name of the hook, which ends in it. -/
def PopupUnnamed (page : Text) : Prop :=
  ∀ i < page.length, popupName <+: page.drop i → "use".toList <:+ page.take i

instance (page : Text) : Decidable (PopupUnnamed page) :=
  inferInstanceAs (Decidable (∀ i < page.length, popupName <+: page.drop i →
    "use".toList <:+ page.take i))

/-- A page in which the popup is unnamed does not import it. -/
theorem PopupUnnamed.not_import {page : Text} (h : PopupUnnamed page) :
    ¬ popupImport <:+: page := by
  have hbraced : bracedPopup <:+: popupImport := Text.mentions_iff.1 (by decide)
  intro himport
  rcases hbraced.trans himport with ⟨s, t, rfl⟩
  have hsplit : s ++ bracedPopup ++ t = (s ++ "\x7b ".toList) ++ (popupName ++ t) := by
    have hname : bracedPopup = "\x7b ".toList ++ popupName := by decide
    rw [hname]
    simp only [List.append_assoc]
  have hinside : (s ++ "\x7b ".toList).length < (s ++ bracedPopup ++ t).length := by
    have hname : 0 < popupName.length := by decide
    simp only [hsplit, List.length_append]
    omega
  have huse := h _ hinside
  rw [hsplit, List.drop_left, List.take_left] at huse
  -- the name would be behind a space as well as behind a letter
  rcases huse (List.prefix_append popupName t) with ⟨x, hx⟩
  have hletter : "use".toList.getLast? = some 'e' := by decide
  have hspace : "\x7b ".toList.getLast? = some ' ' := by decide
  have hlast := congrArg List.getLast? hx
  rw [List.getLast?_append, List.getLast?_append, hletter, hspace] at hlast
  exact absurd (Option.some.inj hlast) (by decide)

/-- The three cases of the step for the imports. -/
theorem add_imports_cases (page tag : Text) :
    (hookName <:+: page ∧ (add page .imports tag).2 = .alreadyPresent)
    ∨ (¬ hookName <:+: page ∧ (∀ line ∈ page.lines, isImportLine line = false)
      ∧ (add page .imports tag).2 = .anchorNotFound .noImportLine)
    ∨ ¬ hookName <:+: page ∧ (∃ line ∈ page.lines, isImportLine line = true)
      ∧ (add page .imports tag).2 = .added := by
  have hguard : hasFragment page .imports tag = true ↔ hookName <:+: page := by
    rw [hasFragment_iff]
    simp only [Kind.signs, List.mem_singleton, exists_eq_left]
  rw [← hguard, Bool.not_eq_true]
  rcases add_cases page .imports tag
    with ⟨hyes, hadd⟩ | ⟨hno, reason, hslot, hadd⟩ | ⟨hno, slot, new, hslot, -, hadd⟩
  · exact Or.inl ⟨hyes, congrArg Prod.snd hadd⟩
  · rcases importSlot_eq_error_iff.1 hslot with ⟨rfl, hnone⟩
    exact Or.inr (Or.inl ⟨hno, hnone, congrArg Prod.snd hadd⟩)
  · rcases importSlot_eq_ok hslot with ⟨i, -, hi⟩
    rcases List.findIdx?_eq_some_iff_getElem.1 hi with ⟨hlt, hline, -⟩
    exact Or.inr (Or.inr ⟨hno, ⟨_, List.getElem_mem hlt, hline⟩, congrArg Prod.snd hadd⟩)

/-- The imports are taken to be there exactly if the hook is named, and go in exactly if it is
    not and there is an import to put them under. So they never get into a page that names the
    hook alone. -/
theorem imports_by_hookName (page tag : Text) {wanted : Selection} (h : wanted.imports = true) :
    (⟨.imports, .alreadyPresent⟩ ∈ (wire page tag wanted).steps ↔ hookName <:+: page)
    ∧ (⟨.imports, .added⟩ ∈ (wire page tag wanted).steps
      ↔ ¬ hookName <:+: page ∧ ∃ line ∈ page.lines, isImportLine line = true)
    ∧ (hookName <:+: page → PopupUnnamed page → ¬ bracedPopup <:+: tag →
      ¬ popupImport <:+: (wire page tag wanted).content) := by
  have hpresent : (add page .imports tag).2 = .alreadyPresent ↔ hookName <:+: page := by
    rcases add_imports_cases page tag with ⟨hhook, hs⟩ | ⟨hhook, -, hs⟩ | ⟨hhook, -, hs⟩
    · exact iff_of_true hs hhook
    · exact iff_of_false (by rw [hs]; decide) hhook
    · exact iff_of_false (by rw [hs]; decide) hhook
  have hadded : (add page .imports tag).2 = .added
      ↔ ¬ hookName <:+: page ∧ ∃ line ∈ page.lines, isImportLine line = true := by
    rcases add_imports_cases page tag with ⟨hhook, hs⟩ | ⟨hhook, hnone, hs⟩ | ⟨hhook, hline, hs⟩
    · exact iff_of_false (by rw [hs]; decide) fun h => h.1 hhook
    · refine iff_of_false (by rw [hs]; decide) fun ⟨_, line, hline, himport⟩ => ?_
      rw [hnone line hline] at himport
      exact Bool.false_ne_true himport
    · exact iff_of_true hs ⟨hhook, hline⟩
  refine ⟨?_, ?_, fun hhook hunnamed htag himport => ?_⟩
  · rw [imports_step_iff, and_iff_right h, hpresent]
  · rw [imports_step_iff, and_iff_right h, hadded]
  · have hbraced : bracedPopup <:+: popupImport := Text.mentions_iff.1 (by decide)
    rcases (infix_wireWith_iff importLike_popupImport (by decide) page tag wanted.kinds).1 himport
      with himport | ⟨kind, hs, htext⟩
    · exact hunnamed.not_import himport
    · -- the fragment that holds the import would be the imports, and these are not added
      by_cases hkind : kind = .imports
      · rw [hkind] at hs
        exact (hadded.1 ((imports_step_iff page tag wanted _).1 hs).2).1 hhook
      · exact htag (bracedPopup_infix_text hkind (hbraced.trans htext))

/-- A page on which nothing but the hook call was put in. -/
def hookedPage : Text :=
  "import a\nexport function APage() \x7b\n  const helpPopup = useHelpPopup('home');\n".toList
    ++ "  const [x] = f();\n  return (\n    <div>\n    </div>\n  );\n\x7d\n".toList

theorem hookName_infix_hookedPage : hookName <:+: hookedPage := by decide +kernel

theorem popupUnnamed_hookedPage : PopupUnnamed hookedPage := by decide +kernel

theorem imports_by_hookName_hookedPage :
    Selection.all.imports = true
    ∧ (⟨.imports, .alreadyPresent⟩ ∈ (wire hookedPage "home".toList .all).steps
      ↔ hookName <:+: hookedPage)
    ∧ (⟨.imports, .added⟩ ∈ (wire hookedPage "home".toList .all).steps
      ↔ ¬ hookName <:+: hookedPage ∧ ∃ line ∈ hookedPage.lines, isImportLine line = true)
    ∧ hookName <:+: hookedPage ∧ PopupUnnamed hookedPage ∧ ¬ bracedPopup <:+: "home".toList
    ∧ ¬ popupImport <:+: (wire hookedPage "home".toList .all).content := by
  have hwanted : Selection.all.imports = true := rfl
  have htag : ¬ bracedPopup <:+: "home".toList := by decide
  rcases imports_by_hookName hookedPage "home".toList hwanted with ⟨hpresent, hadded, himport⟩
  exact ⟨hwanted, hpresent, hadded, hookName_infix_hookedPage, popupUnnamed_hookedPage, htag,
    himport hookName_infix_hookedPage popupUnnamed_hookedPage htag⟩

/-- The hook call of a first run keeps the imports out for good, and the popup element of the
    second run is not imported. -/
theorem imports_skipped :
    (wire plainPage "home".toList (.ofKinds [.hook])).content = hookedPage
    ∧ (∃ line ∈ hookedPage.lines, isImportLine line = true) ∧ hookName <:+: hookedPage
    ∧ PopupUnnamed hookedPage
    ∧ (wire hookedPage "home".toList .all).steps
      = [⟨.imports, .alreadyPresent⟩, ⟨.hook, .alreadyPresent⟩, ⟨.component, .added⟩]
    ∧ ¬ popupImport <:+: (wire hookedPage "home".toList .all).content :=
  ⟨by decide +kernel, by decide, hookName_infix_hookedPage, popupUnnamed_hookedPage,
    by decide +kernel, by decide +kernel⟩

end Page

end HelpWiring
