import HelpWiring.Page.Fragment
import HelpWiring.Proofs.Text.Seam

/-!
# The Fragments Spelled Out

The fragments and what their guards look for, each written so that the tag
stands apart from the letters around it. Later proofs reason about letters and
tag by these equations and never open the definitions.

The popup element is a list of lines between two empty ones. The first ends
the line that the element is put into, the last begins the line that follows.

## Main definitions

* `popupLines`: The lines of the popup element.

## Theorems

* `hookCall_eq`, `keyAttribute_eq`, `hookLine_eq`, `popupElement_eq`: The
  spelling.
* `popupElement_eq_unlines`, `popupElement_lines`: The popup element, line by
  line.
* `mem_hookCall`, `mem_keyAttribute`: The characters of what the guards look
  for.
* `isSolid_hookCall`, `isSolid_keyAttribute`: It is solid if the tag is.
* `hasFragment_of_infix`: A page that holds the text of a fragment has it.
-/

namespace HelpWiring

theorem hookCall_eq (quote : Char) (tag : Text) :
    hookCall quote tag = "useHelpPopup(".toList ++ quote :: (tag ++ [quote, ')']) := rfl

theorem keyAttribute_eq (quote : Char) (tag : Text) :
    keyAttribute quote tag = "pageKey=".toList ++ quote :: (tag ++ [quote]) := rfl

theorem hookLine_eq (tag : Text) :
    hookLine tag = "const helpPopup = ".toList ++ (hookCall '\'' tag ++ [';']) := by
  have hfront : "const helpPopup = useHelpPopup('".toList
      = "const helpPopup = ".toList ++ ("useHelpPopup(".toList ++ ['\'']) := by decide
  have hback : "');".toList = ['\'', ')', ';'] := by decide
  change "const helpPopup = useHelpPopup('".toList ++ tag ++ "');".toList = _
  rw [hfront, hback, hookCall_eq]
  simp only [List.append_assoc, List.cons_append, List.nil_append]

/-- The lines of the popup element, without the empty ones around them. -/
def popupLines (tag : Text) : List Text :=
  ["      \x7b/* Help Popup */\x7d".toList,
   "      <HelpPopup".toList,
   "        ".toList ++ keyAttribute '"' tag,
   "        isOpen=\x7bhelpPopup.isOpen\x7d".toList,
   "        onClose=\x7bhelpPopup.closePopup\x7d".toList,
   "      />".toList]

theorem popupElement_eq (tag : Text) :
    popupElement tag
      = "\n      \x7b/* Help Popup */\x7d\n      <HelpPopup\n        ".toList
        ++ (keyAttribute '"' tag ++ ("\n        isOpen=\x7bhelpPopup.isOpen\x7d\n        ".toList
          ++ "onClose=\x7bhelpPopup.closePopup\x7d\n      />\n".toList)) := by
  have hfront : "\n      \x7b/* Help Popup */\x7d\n      <HelpPopup\n        pageKey=\"".toList
      = "\n      \x7b/* Help Popup */\x7d\n      <HelpPopup\n        ".toList
        ++ ("pageKey=".toList ++ ['"']) := by decide
  have hback : "\"\n        isOpen=\x7bhelpPopup.isOpen\x7d\n        ".toList
      = '"' :: "\n        isOpen=\x7bhelpPopup.isOpen\x7d\n        ".toList := by decide
  change "\n      \x7b/* Help Popup */\x7d\n      <HelpPopup\n        pageKey=\"".toList ++ tag
    ++ ("\"\n        isOpen=\x7bhelpPopup.isOpen\x7d\n        ".toList
      ++ "onClose=\x7bhelpPopup.closePopup\x7d\n      />\n".toList) = _
  rw [hfront, hback, keyAttribute_eq]
  simp only [List.append_assoc, List.cons_append, List.nil_append]

theorem popupElement_eq_unlines (tag : Text) :
    popupElement tag = Text.unlines ([] :: (popupLines tag ++ [[]])) := by
  have hfront : "\n      \x7b/* Help Popup */\x7d\n      <HelpPopup\n        ".toList
      = '\n' :: ("      \x7b/* Help Popup */\x7d".toList ++ '\n' :: ("      <HelpPopup".toList
        ++ '\n' :: "        ".toList)) := by decide
  have hback : "\n        isOpen=\x7bhelpPopup.isOpen\x7d\n        ".toList
        ++ "onClose=\x7bhelpPopup.closePopup\x7d\n      />\n".toList
      = '\n' :: ("        isOpen=\x7bhelpPopup.isOpen\x7d".toList
        ++ '\n' :: ("        onClose=\x7bhelpPopup.closePopup\x7d".toList
          ++ '\n' :: ("      />".toList ++ ['\n']))) := by decide
  rw [popupElement_eq, hfront, hback]
  simp only [popupLines, Text.unlines, Text.glue, List.append_assoc, List.cons_append,
    List.nil_append]

theorem mem_hookCall {quote c : Char} {tag : Text} (h : c ∈ hookCall quote tag) :
    c ∈ "useHelpPopup()".toList ∨ c = quote ∨ c ∈ tag := by
  have hfront : "useHelpPopup()".toList = "useHelpPopup(".toList ++ [')'] := by decide
  rw [hfront, List.mem_append, List.mem_singleton]
  rw [hookCall_eq] at h
  simp only [List.mem_append, List.mem_cons, List.not_mem_nil, or_false] at h
  rcases h with h | h | h | h | h
  · exact Or.inl (Or.inl h)
  · exact Or.inr (Or.inl h)
  · exact Or.inr (Or.inr h)
  · exact Or.inr (Or.inl h)
  · exact Or.inl (Or.inr h)

theorem mem_keyAttribute {quote c : Char} {tag : Text} (h : c ∈ keyAttribute quote tag) :
    c ∈ "pageKey=".toList ∨ c = quote ∨ c ∈ tag := by
  rw [keyAttribute_eq] at h
  simp only [List.mem_append, List.mem_cons, List.not_mem_nil, or_false] at h
  rcases h with h | h | h | h
  · exact Or.inl h
  · exact Or.inr (Or.inl h)
  · exact Or.inr (Or.inr h)
  · exact Or.inr (Or.inl h)

theorem isSolid_hookCall {quote : Char} {tag : Text} (hq : isBlank quote = false)
    (ht : tag.isSolid = true) : (hookCall quote tag).isSolid = true := by
  have hname : Text.isSolid "useHelpPopup()".toList = true := by decide
  rw [Text.isSolid_iff] at hname ht ⊢
  intro c hc
  rcases mem_hookCall hc with h | rfl | h
  · exact hname c h
  · exact hq
  · exact ht c h

theorem isSolid_keyAttribute {quote : Char} {tag : Text} (hq : isBlank quote = false)
    (ht : tag.isSolid = true) : (keyAttribute quote tag).isSolid = true := by
  have hname : Text.isSolid "pageKey=".toList = true := by decide
  rw [Text.isSolid_iff] at hname ht ⊢
  intro c hc
  rcases mem_keyAttribute hc with h | rfl | h
  · exact hname c h
  · exact hq
  · exact ht c h

theorem notMem_hookLine {tag : Text} (h : '\n' ∉ tag) : '\n' ∉ hookLine tag := by
  rw [hookLine_eq]
  simp only [List.mem_append, List.mem_singleton]
  rintro (hm | hm | hm)
  · exact absurd hm (by decide)
  · rcases mem_hookCall hm with hm | hm | hm
    · exact absurd hm (by decide)
    · exact absurd hm (by decide)
    · exact h hm
  · exact absurd hm (by decide)

theorem notMem_popupLines {tag : Text} (h : '\n' ∉ tag) : ∀ line ∈ popupLines tag, '\n' ∉ line := by
  intro line hline
  simp only [popupLines, List.mem_cons, List.not_mem_nil, or_false] at hline
  rcases hline with rfl | rfl | rfl | rfl | rfl | rfl
  · decide
  · decide
  · intro hm
    rcases List.mem_append.1 hm with hm | hm
    · exact absurd hm (by decide)
    · rcases mem_keyAttribute hm with hm | hm | hm
      · exact absurd hm (by decide)
      · exact absurd hm (by decide)
      · exact h hm
  · decide
  · decide
  · decide

theorem popupElement_lines {tag : Text} (h : '\n' ∉ tag) :
    (popupElement tag).lines = [] :: (popupLines tag ++ [[]]) := by
  rw [popupElement_eq_unlines]
  refine Text.cut_glue (List.cons_ne_nil _ _) ?_
  rw [List.forall_mem_cons, List.forall_mem_append, List.forall_mem_singleton]
  exact ⟨List.not_mem_nil, notMem_popupLines h, List.not_mem_nil⟩

theorem hookCall_infix_hookLine (tag : Text) : hookCall '\'' tag <:+: hookLine tag := by
  rw [hookLine_eq]
  exact List.infix_append' _ _ _

theorem keyAttribute_infix_popupElement (tag : Text) :
    keyAttribute '"' tag <:+: popupElement tag := by
  rw [popupElement_eq]
  exact List.infix_append' _ _ _

theorem hasFragment_of_infix {page : Text} {kind : Kind} {tag : Text}
    (h : kind.text tag <:+: page) : hasFragment page kind tag = true := by
  cases kind with
  | imports =>
      have hhook : hookName <:+: importLines := Text.mentions_iff.1 (by decide)
      have hpopup : popupName <:+: importLines := Text.mentions_iff.1 (by decide)
      simp only [hasFragment, Bool.and_eq_true]
      exact ⟨Text.mentions_iff.2 (hhook.trans h), Text.mentions_iff.2 (hpopup.trans h)⟩
  | hook =>
      simp only [hasFragment, Bool.or_eq_true]
      exact Or.inl (Text.mentions_iff.2 ((hookCall_infix_hookLine tag).trans h))
  | component =>
      simp only [hasFragment, Bool.or_eq_true]
      exact Or.inl (Text.mentions_iff.2 ((keyAttribute_infix_popupElement tag).trans h))

end HelpWiring
