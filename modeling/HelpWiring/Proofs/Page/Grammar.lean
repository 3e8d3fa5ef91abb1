import HelpWiring.Page.Slot
import HelpWiring.Proofs.Text.Seam

/-!
# The Shapes as Grammars

What the recognisers accept, said without any recogniser: a text starts with
a shape exactly if it is put together from the fixed pieces, the words and the
blanks of the shape, and anything behind. Words and blanks are read as far as
they go. The grammars do not ask for that, and need not, since what follows a
run in a shape is of another sort.

A word holds no blank. So the only blanks in a page head are the spaces that
are written in it, which is what keeps a head from reaching across a seam.

## Theorems

* `isBlank_of_isWord`: No word character is blank.
* `after_eq_some_iff`, `word_eq_some_iff`, `afterBlanks_eq_some_iff`: Reading a
  piece, a word and a run of blanks.
* `word_append`, `afterBlanks_append`: How far a word and blanks are read.
* `opensPage_iff`: The head of a page function.
* `callsHook_iff`, `takesState_iff`: The two kinds of hook site.
* `closesPage_iff`: The lines that close a page.
* `isHookSite_of_infix`: A line has the hook sites of its parts.
-/

namespace HelpWiring

/-- No range of blanks meets a range of word characters. -/
theorem blankRanges_apart_wordRanges :
    ∀ r ∈ blankRanges, ∀ s ∈ wordRanges, r.2 < s.1 ∨ s.2 < r.1 := by decide +kernel

theorem isBlank_of_isWord {c : Char} (h : isWord c = true) : isBlank c = false := by
  refine Bool.eq_false_iff.2 fun hblank => ?_
  rcases Text.Ranges.exists_range_of_holds hblank with ⟨r, hr, hlow, hhigh⟩
  rcases Text.Ranges.exists_range_of_holds h with ⟨s, hs, hlow', hhigh'⟩
  have hapart := blankRanges_apart_wordRanges r hr s hs
  omega

namespace Text

theorem after_eq_some_iff {piece t rest : Text} :
    after? piece t = some rest ↔ t = piece ++ rest := by
  by_cases h : piece.isPrefixOf t = true
  · rcases List.isPrefixOf_iff_prefix.1 h with ⟨z, rfl⟩
    rw [after?, if_pos h, List.drop_left, Option.some.injEq, List.append_cancel_left_eq]
  · rw [after?, if_neg h]
    constructor
    · intro hn
      simp only [reduceCtorEq] at hn
    · rintro rfl
      exact absurd (List.isPrefixOf_iff_prefix.2 (List.prefix_append piece rest)) h

theorem takeWhile_of_head {p : Char → Bool} {rest : Text} (h : ∀ c ∈ rest.head?, p c = false) :
    rest.takeWhile p = [] ∧ rest.dropWhile p = rest := by
  cases rest with
  | nil => exact ⟨rfl, rfl⟩
  | cons c r =>
      have hc : ¬ p c = true := Bool.eq_false_iff.1 (h c rfl)
      exact ⟨List.takeWhile_cons_of_neg hc, List.dropWhile_cons_of_neg hc⟩

theorem word_eq_some_iff {t name rest : Text} :
    word? t = some (name, rest) ↔ t = name ++ rest ∧ name ≠ []
      ∧ (∀ c ∈ name, isWord c = true) ∧ ∀ c ∈ rest.head?, isWord c = false := by
  constructor
  · intro h
    rw [word?] at h
    split at h
    · simp only [reduceCtorEq] at h
    · rename_i w hne
      simp only [Option.some.injEq, Prod.mk.injEq] at h
      rcases h with ⟨rfl, rfl⟩
      refine ⟨List.takeWhile_append_dropWhile.symm, hne, List.all_eq_true.1 List.all_takeWhile, ?_⟩
      intro c hc
      have hstop := List.head?_dropWhile_not isWord t
      rw [hc] at hstop
      exact hstop
  · rintro ⟨rfl, hne, hword, hend⟩
    have hstop := takeWhile_of_head hend
    have htake : (name ++ rest).takeWhile isWord = name := by
      rw [List.takeWhile_append_of_pos hword, hstop.1, List.append_nil]
    have hdrop : (name ++ rest).dropWhile isWord = rest := by
      rw [List.dropWhile_append_of_pos hword, hstop.2]
    rw [word?, htake, hdrop]
    cases name with
    | nil => exact absurd rfl hne
    | cons c r => rfl

/-- A word is read up to a character that cannot be part of it. -/
theorem word_append {name rest : Text} {d : Char} (hne : name ≠ [])
    (hword : ∀ c ∈ name, isWord c = true) (hd : rest.head? = some d) (hstop : isWord d = false) :
    word? (name ++ rest) = some (name, rest) := by
  refine word_eq_some_iff.2 ⟨rfl, hne, hword, fun c hc => ?_⟩
  rw [hd] at hc
  exact Option.some.inj hc ▸ hstop

theorem afterBlanks_eq_some_iff {t rest : Text} :
    afterBlanks? t = some rest ↔ ∃ run, t = run ++ rest ∧ run ≠ []
      ∧ (∀ c ∈ run, isBlank c = true) ∧ ∀ c ∈ rest.head?, isBlank c = false := by
  constructor
  · intro h
    cases t with
    | nil => simp only [afterBlanks?, reduceCtorEq] at h
    | cons c r =>
        by_cases hc : isBlank c = true
        · rw [afterBlanks?, if_pos hc, Option.some.injEq] at h
          subst h
          refine ⟨c :: r.takeWhile isBlank, ?_, List.cons_ne_nil _ _, ?_, ?_⟩
          · rw [List.cons_append, List.takeWhile_append_dropWhile]
          · intro d hd
            rcases List.mem_cons.1 hd with rfl | hd
            · exact hc
            · exact List.all_eq_true.1 List.all_takeWhile d hd
          · intro d hd
            have hstop := List.head?_dropWhile_not isBlank r
            rw [hd] at hstop
            exact hstop
        · rw [afterBlanks?, if_neg hc] at h
          simp only [reduceCtorEq] at h
  · rintro ⟨run, rfl, hne, hrun, hend⟩
    cases run with
    | nil => exact absurd rfl hne
    | cons c run =>
        rw [List.cons_append, afterBlanks?, if_pos (hrun c List.mem_cons_self),
          List.dropWhile_append_of_pos fun d hd => hrun d (List.mem_cons_of_mem c hd),
          (takeWhile_of_head hend).2]

/-- Blanks are passed over up to a character that is none. -/
theorem afterBlanks_append {run rest : Text} {d : Char} (hne : run ≠ [])
    (hrun : ∀ c ∈ run, isBlank c = true) (hd : rest.head? = some d) (hstop : isBlank d = false) :
    afterBlanks? (run ++ rest) = some rest := by
  refine afterBlanks_eq_some_iff.2 ⟨run, rfl, hne, hrun, fun c hc => ?_⟩
  rw [hd] at hc
  exact Option.some.inj hc ▸ hstop

end Text

/-- The head of a page function: its name is a word that ends in `Page` and is
    longer than that. -/
theorem opensPage_iff {t : Text} :
    opensPage t = true ↔ ∃ name rest,
      t = "export function ".toList ++ (name ++ ("() \x7b".toList ++ rest))
        ∧ (∀ c ∈ name, isWord c = true) ∧ 4 < name.length ∧ "Page".toList <:+ name := by
  constructor
  · intro h
    rw [opensPage] at h
    split at h
    · exact absurd h Bool.false_ne_true
    · rename_i r hr
      split at h
      · exact absurd h Bool.false_ne_true
      · rename_i name rest hw
        rcases Text.word_eq_some_iff.1 hw with ⟨rfl, -, hword, -⟩
        rw [Bool.and_eq_true, Bool.and_eq_true, decide_eq_true_eq] at h
        rcases h with ⟨⟨hlong, hpage⟩, hend⟩
        rcases List.isPrefixOf_iff_prefix.1 hend with ⟨z, rfl⟩
        exact ⟨name, z, Text.after_eq_some_iff.1 hr, hword, hlong,
          List.isSuffixOf_iff_suffix.1 hpage⟩
  · rintro ⟨name, rest, rfl, hword, hlong, hpage⟩
    have hne : name ≠ [] := List.ne_nil_of_length_pos (by omega)
    have hw : Text.word? (name ++ ("() \x7b".toList ++ rest))
        = some (name, "() \x7b".toList ++ rest) := by
      have hparen : ("() \x7b".toList ++ rest).head? = some '(' := rfl
      exact Text.word_append hne hword hparen (by decide)
    simp only [opensPage, Text.after_eq_some_iff.2 rfl, hw, Bool.and_eq_true, decide_eq_true_eq]
    exact ⟨⟨hlong, List.isSuffixOf_iff_suffix.2 hpage⟩,
      List.isPrefixOf_iff_prefix.2 (List.prefix_append _ _)⟩

/-- A constant that a hook call defines. -/
theorem callsHook_iff {t : Text} :
    callsHook t = true ↔ ∃ name hook rest,
      t = "const ".toList ++ (name ++ (" = use".toList ++ (hook ++ '(' :: rest)))
        ∧ name ≠ [] ∧ (∀ c ∈ name, isWord c = true)
        ∧ hook ≠ [] ∧ ∀ c ∈ hook, isWord c = true := by
  constructor
  · intro h
    rw [callsHook] at h
    split at h
    · exact absurd h Bool.false_ne_true
    · rename_i name rest₁ hname
      rcases Option.bind_eq_some_iff.1 hname with ⟨r, hr, hname⟩
      rcases Text.word_eq_some_iff.1 hname with ⟨rfl, hne, hword, -⟩
      split at h
      · exact absurd h Bool.false_ne_true
      · rename_i hook rest₂ hhook
        rcases Option.bind_eq_some_iff.1 hhook with ⟨r, hr₂, hhook⟩
        rcases Text.word_eq_some_iff.1 hhook with ⟨rfl, hne₂, hword₂, -⟩
        rcases List.isPrefixOf_iff_prefix.1 h with ⟨z, rfl⟩
        rw [Text.after_eq_some_iff] at hr hr₂
        subst hr₂
        exact ⟨name, hook, z, hr, hne, hword, hne₂, hword₂⟩
  · rintro ⟨name, hook, rest, rfl, hne, hword, hne₂, hword₂⟩
    have hname : Text.word? (name ++ (" = use".toList ++ (hook ++ '(' :: rest)))
        = some (name, " = use".toList ++ (hook ++ '(' :: rest)) := by
      have hspace : (" = use".toList ++ (hook ++ '(' :: rest)).head? = some ' ' := rfl
      exact Text.word_append hne hword hspace (by decide)
    have hhook : Text.word? (hook ++ '(' :: rest) = some (hook, '(' :: rest) :=
      Text.word_append hne₂ hword₂ rfl (by decide)
    simp only [callsHook, Text.after_eq_some_iff.2 rfl, Option.bind_some, hname, hhook]
    rfl

/-- Constants that are taken out of a state. -/
theorem takesState_iff {t : Text} :
    takesState t = true ↔
      ∃ c rest, t = "const [".toList ++ c :: rest ∧ isWord c = true := by
  constructor
  · intro h
    rw [takesState, Option.isSome_iff_exists] at h
    rcases h with ⟨⟨name, rest⟩, h⟩
    rcases Option.bind_eq_some_iff.1 h with ⟨r, hr, hname⟩
    rcases Text.word_eq_some_iff.1 hname with ⟨rfl, hne, hword, -⟩
    cases name with
    | nil => exact absurd rfl hne
    | cons c name =>
        exact ⟨c, name ++ rest, Text.after_eq_some_iff.1 hr, hword c List.mem_cons_self⟩
  · rintro ⟨c, rest, rfl, hc⟩
    have hword : Text.word? (c :: rest)
        = some ((c :: rest).takeWhile isWord, (c :: rest).dropWhile isWord) := by
      rw [Text.word?, List.takeWhile_cons_of_pos hc]
    simp only [takesState, Text.after_eq_some_iff.2 rfl, Option.bind_some, hword, Option.isSome]

/-- The lines that close a page: a closing tag, the end of what is returned and
    the end of the function, with blanks in front of each. -/
theorem closesPage_iff {t : Text} :
    closesPage t = true ↔ ∃ run₁ run₂ run₃ rest,
      t = run₁ ++ ("</div>".toList ++ (run₂ ++ (");".toList ++ (run₃ ++ '\x7d' :: rest))))
        ∧ (run₁ ≠ [] ∧ ∀ c ∈ run₁, isBlank c = true)
        ∧ (run₂ ≠ [] ∧ ∀ c ∈ run₂, isBlank c = true)
        ∧ (run₃ ≠ [] ∧ ∀ c ∈ run₃, isBlank c = true) := by
  constructor
  · intro h
    rw [closesPage, Option.isSome_iff_exists] at h
    rcases h with ⟨rest, h⟩
    rcases Option.bind_eq_some_iff.1 h with ⟨t₅, h, hbrace⟩
    rcases Option.bind_eq_some_iff.1 h with ⟨t₄, h, hblank₃⟩
    rcases Option.bind_eq_some_iff.1 h with ⟨t₃, h, hparen⟩
    rcases Option.bind_eq_some_iff.1 h with ⟨t₂, h, hblank₂⟩
    rcases Option.bind_eq_some_iff.1 h with ⟨t₁, hblank₁, hdiv⟩
    rcases Text.afterBlanks_eq_some_iff.1 hblank₁ with ⟨run₁, rfl, hne₁, hrun₁, -⟩
    rcases Text.afterBlanks_eq_some_iff.1 hblank₂ with ⟨run₂, rfl, hne₂, hrun₂, -⟩
    rcases Text.afterBlanks_eq_some_iff.1 hblank₃ with ⟨run₃, rfl, hne₃, hrun₃, -⟩
    obtain rfl := Text.after_eq_some_iff.1 hdiv
    obtain rfl := Text.after_eq_some_iff.1 hparen
    obtain rfl := Text.after_eq_some_iff.1 hbrace
    exact ⟨run₁, run₂, run₃, rest, rfl, ⟨hne₁, hrun₁⟩, ⟨hne₂, hrun₂⟩, ⟨hne₃, hrun₃⟩⟩
  · rintro ⟨run₁, run₂, run₃, rest, rfl, ⟨hne₁, hrun₁⟩, ⟨hne₂, hrun₂⟩, ⟨hne₃, hrun₃⟩⟩
    have hbrace : ('\x7d' :: rest).head? = some '\x7d' := rfl
    have hparen : (");".toList ++ (run₃ ++ '\x7d' :: rest)).head? = some ')' := rfl
    have htag : ("</div>".toList ++ (run₂ ++ (");".toList ++ (run₃ ++ '\x7d' :: rest)))).head?
        = some '<' := rfl
    have h₃ := Text.afterBlanks_append hne₃ hrun₃ hbrace (by decide)
    have h₂ := Text.afterBlanks_append hne₂ hrun₂ hparen (by decide)
    have h₁ := Text.afterBlanks_append hne₁ hrun₁ htag (by decide)
    rw [closesPage, h₁, Option.bind_some, Text.after_eq_some_iff.2 rfl, Option.bind_some, h₂,
      Option.bind_some, Text.after_eq_some_iff.2 rfl, Option.bind_some, h₃, Option.bind_some]
    exact Option.isSome_iff_exists.2 ⟨rest, Text.after_eq_some_iff.2 rfl⟩

theorem opensPage_append {t : Text} (h : opensPage t = true) (s : Text) :
    opensPage (t ++ s) = true := by
  rcases opensPage_iff.1 h with ⟨name, rest, rfl, hword, hlong, hpage⟩
  exact opensPage_iff.2 ⟨name, rest ++ s, by simp only [List.append_assoc], hword, hlong, hpage⟩

/-- A site of either kind, at the start of a text. -/
theorem siteAt_append {t : Text} (h : (callsHook t || takesState t) = true) (s : Text) :
    (callsHook (t ++ s) || takesState (t ++ s)) = true := by
  rw [Bool.or_eq_true] at h ⊢
  rcases h with h | h
  · rcases callsHook_iff.1 h with ⟨name, hook, rest, rfl, hne, hword, hne₂, hword₂⟩
    refine Or.inl (callsHook_iff.2 ⟨name, hook, rest ++ s, ?_, hne, hword, hne₂, hword₂⟩)
    simp only [List.append_assoc, List.cons_append]
  · rcases takesState_iff.1 h with ⟨c, rest, rfl, hc⟩
    refine Or.inr (takesState_iff.2 ⟨c, rest ++ s, ?_, hc⟩)
    simp only [List.append_assoc, List.cons_append]

theorem isHookSite_of_infix {part line : Text} (hpart : part <:+: line)
    (h : isHookSite part = true) : isHookSite line = true := by
  rcases hpart with ⟨a, b, rfl⟩
  rcases Text.someSuffix_iff.1 h with ⟨t, ⟨z, rfl⟩, ht⟩
  refine Text.someSuffix_iff.2 ⟨t ++ b, ⟨a ++ z, ?_⟩, siteAt_append ht b⟩
  simp only [List.append_assoc]

/-- Every hook site starts with a constant. -/
theorem const_infix_of_isHookSite {line : Text} (h : isHookSite line = true) :
    "const ".toList <:+: line := by
  rcases Text.someSuffix_iff.1 h with ⟨t, ht, hsite⟩
  rw [Bool.or_eq_true] at hsite
  have hconst : "const ".toList <+: t := by
    rcases hsite with hsite | hsite
    · rcases callsHook_iff.1 hsite with ⟨name, hook, rest, rfl, -⟩
      exact List.prefix_append _ _
    · rcases takesState_iff.1 hsite with ⟨c, rest, rfl, -⟩
      have hsplit : "const [".toList = "const ".toList ++ ['['] := by decide
      rw [hsplit, List.append_assoc]
      exact List.prefix_append _ _
  exact hconst.isInfix.trans ht.isInfix

end HelpWiring
