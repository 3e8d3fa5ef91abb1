import HelpWiring.Proofs.Page.Grammar
import HelpWiring.Proofs.Text.Places

/-!
# Where a Page Is Closed

What closes a page is three words, each behind a run of blanks. The search goes
from the start of the page and stops at the first place where they begin, so a
place is found exactly if they begin there and nowhere in front of it.

New lines above that place push it down by their octets. That has three parts.
In the new lines nothing closes a page, as there is no `<` behind a blank. What
begins behind them is what began there before. And what begins in front of them
would have to go on across them: its words are solid, so it would come to the
new lines in a run of blanks, and what it finds there is no word of its own.

## Main definitions

* `Text.SpacedWords`: Some words, each behind a run of blanks.
* `Text.Bars`: A text that some words do not go on in.
* `closingWords`: The words that close a page.
* `Harmless`: New lines that neither close a page nor let it be closed across them.

## Theorems

* `spacedWords_of_bars`: Words in front of a text that bars them.
* `closesPage_iff_spacedWords`: What closes a page.
* `popupSlot_append_iff`: Where the page is closed.
* `firstPlace_of_bars`: That it is closed there does not depend on what is further down.
* `popupSlot_insert`: Where it is closed once there are new lines above.
-/

namespace HelpWiring

namespace Text

/-- A run of blanks, at least one. -/
def IsGap (run : Text) : Prop := run ≠ [] ∧ ∀ c ∈ run, isBlank c = true

theorem isGap_feed : IsGap ['\n'] := by
  refine ⟨List.cons_ne_nil _ _, fun c hc => ?_⟩
  rw [List.mem_singleton.1 hc]
  decide

/-- Some words, each behind a run of blanks, and anything behind them. -/
def SpacedWords : List Text → Text → Prop
  | [], _ => True
  | word :: more, t => ∃ run rest, t = run ++ (word ++ rest) ∧ IsGap run ∧ SpacedWords more rest

/-- A text that starts with blanks and goes on with a character that none of the words
    starts with. -/
def Bars (words : List Text) (t : Text) : Prop :=
  ∃ run c rest, t = run ++ c :: rest ∧ IsGap run ∧ isBlank c = false
    ∧ ∀ word ∈ words, word.head? ≠ some c

theorem Bars.append {words : List Text} {t : Text} (h : Bars words t) (s : Text) :
    Bars words (t ++ s) := by
  rcases h with ⟨run, c, rest, rfl, hrun, hc, hwords⟩
  exact ⟨run, c, rest ++ s, by rw [List.append_assoc, List.cons_append], hrun, hc, hwords⟩

theorem SpacedWords.append {words : List Text} {t : Text} (h : SpacedWords words t) (s : Text) :
    SpacedWords words (t ++ s) := by
  induction words generalizing t with
  | nil => trivial
  | cons word more ih =>
      rcases h with ⟨run, rest, rfl, hrun, hmore⟩
      exact ⟨run, rest ++ s, by simp only [List.append_assoc], hrun, ih hmore⟩

/-- A suffix of two texts in a row starts in the second one or in the first. -/
theorem suffix_append_cases {s a b : Text} (h : s <:+ a ++ b) :
    s <:+ b ∨ ∃ r, r ≠ [] ∧ r <:+ a ∧ s = r ++ b := by
  rcases h with ⟨front, h⟩
  rcases List.append_eq_append_iff.1 h with ⟨r, rfl, rfl⟩ | ⟨r, -, rfl⟩
  · cases r with
    | nil => exact Or.inl List.suffix_rfl
    | cons c r => exact Or.inr ⟨c :: r, List.cons_ne_nil c r, List.suffix_append _ _, rfl⟩
  · exact Or.inl (List.suffix_append r s)

/-- A word behind blanks starts with the first character that is none. -/
theorem head?_of_blanks {run run' word rest rest' : Text} {c : Char}
    (heq : run ++ (word ++ rest) = run' ++ c :: rest') (hrun : ∀ d ∈ run, isBlank d = true)
    (hrun' : ∀ d ∈ run', isBlank d = true) (hne : word ≠ []) (hsolid : word.isSolid = true)
    (hc : isBlank c = false) : word.head? = some c := by
  cases word with
  | nil => exact absurd rfl hne
  | cons d r =>
      have hd : isBlank d = false := isSolid_iff.1 hsolid d List.mem_cons_self
      have hleft : (run ++ (d :: r ++ rest)).dropWhile isBlank = d :: r ++ rest := by
        rw [List.dropWhile_append_of_pos hrun]
        exact List.dropWhile_cons_of_neg (Bool.eq_false_iff.1 hd)
      rw [heq, List.dropWhile_append_of_pos hrun',
        List.dropWhile_cons_of_neg (Bool.eq_false_iff.1 hc), List.cons_append] at hleft
      exact congrArg some (List.cons.inj hleft).1.symm

/-- In front of a text that bars them, words can only end before it. -/
theorem spacedWords_of_bars {words : List Text} {s t : Text}
    (hwords : ∀ word ∈ words, word ≠ [] ∧ word.isSolid = true) (ht : Bars words t)
    (h : SpacedWords words (s ++ t)) : SpacedWords words s := by
  induction words generalizing s with
  | nil => trivial
  | cons word more ih =>
      rcases h with ⟨run, rest, heq, hrun, hmore⟩
      rw [List.forall_mem_cons] at hwords
      rcases hwords with ⟨⟨hne, hsolid⟩, hwords⟩
      rcases ht with ⟨run', c, rest', rfl, hrun', hc, hheads⟩
      rw [List.forall_mem_cons] at hheads
      have ih := fun {s} => @ih s hwords ⟨run', c, rest', rfl, hrun', hc, hheads.2⟩
      -- the first word ends in front of `t`, or goes on in it
      rw [← List.append_assoc run] at heq
      rcases List.append_eq_append_iff.1 heq with ⟨m, hm, ht⟩ | ⟨m, rfl, rfl⟩
      · cases m with
        | nil =>
            rw [List.append_nil] at hm
            rw [List.nil_append] at ht
            refine ⟨run, [], by rw [List.append_nil, hm], hrun, ih ?_⟩
            rw [List.nil_append, ht]
            exact hmore
        | cons d m =>
            exfalso
            -- the text starts with a blank, and that is no part of the word
            have hd : isBlank d = true := by
              cases run' with
              | nil => exact absurd rfl hrun'.1
              | cons e r =>
                  rw [List.cons_append, List.cons_append, List.cons.injEq] at ht
                  exact ht.1 ▸ hrun'.2 e List.mem_cons_self
            rcases List.append_eq_append_iff.1 hm with ⟨x, rfl, hx⟩ | ⟨x, rfl, hx⟩
            · exact notMem_of_isSolid hsolid hd (hx ▸ List.mem_append_right x List.mem_cons_self)
            · -- so it is part of the run, and the word comes right behind the blanks
              rw [hx, List.append_assoc] at ht
              have hx : ∀ e ∈ x, isBlank e = true := fun e he =>
                hrun.2 e (List.mem_append_right s he)
              exact hheads.1 (head?_of_blanks ht.symm hx hrun'.2 hne hsolid hc)
      · exact ⟨run, m, by rw [List.append_assoc], hrun, ih hmore⟩

end Text

/-- The words that close a page. -/
def closingWords : List Text := ["</div>".toList, ");".toList, ['\x7d']]

theorem closesPage_iff_spacedWords {t : Text} :
    closesPage t = true ↔ Text.SpacedWords closingWords t := by
  rw [closesPage_iff]
  constructor
  · rintro ⟨run₁, run₂, run₃, rest, rfl, hrun₁, hrun₂, hrun₃⟩
    exact ⟨run₁, _, rfl, hrun₁, run₂, _, rfl, hrun₂, run₃, rest, rfl, hrun₃, trivial⟩
  · rintro ⟨run₁, _, rfl, hrun₁, run₂, _, rfl, hrun₂, run₃, rest, rfl, hrun₃, -⟩
    exact ⟨run₁, run₂, run₃, rest, rfl, hrun₁, hrun₂, hrun₃⟩

theorem closesPage_append {t : Text} (h : closesPage t = true) (s : Text) :
    closesPage (t ++ s) = true :=
  closesPage_iff_spacedWords.2 ((closesPage_iff_spacedWords.1 h).append s)

/-- A page is not closed across a text that bars the words for it. -/
theorem closesPage_of_bars {s t : Text} (ht : Text.Bars closingWords t)
    (h : closesPage (s ++ t) = true) : closesPage s = true := by
  rw [closesPage_iff_spacedWords] at h ⊢
  exact Text.spacedWords_of_bars (by decide) ht h

/-- New lines that neither close a page nor let it be closed across them. -/
structure Harmless (block : Text) : Prop where
  bars : Text.Bars closingWords block
  /-- No tag follows a blank. -/
  untagged : ∀ c, isBlank c = true → ¬ [c, '<'] <:+: block
  /-- There are no blanks at the end. -/
  last : ∀ c ∈ block.getLast?, isBlank c = false

/-- In harmless lines nothing begins that closes a page. -/
theorem Harmless.not_closesPage {block s t : Text} (h : Harmless block) (hne : s ≠ [])
    (hs : s <:+ block) : closesPage (s ++ t) = false := by
  refine Bool.eq_false_iff.2 fun hcloses => ?_
  rcases closesPage_iff_spacedWords.1 hcloses with ⟨run, rest, heq, hrun, -⟩
  -- the first run of blanks ends in `s`, as the last character of `s` is none
  have hlast : isBlank (s.getLast hne) = false := by
    refine h.last _ ?_
    rcases hs with ⟨front, rfl⟩
    rw [List.getLast?_append, List.getLast?_eq_some_getLast hne]
    rfl
  have hblank : ∀ x, run ≠ s ++ x := by
    rintro x rfl
    rw [hrun.2 _ (List.mem_append_left x (List.getLast_mem hne))] at hlast
    exact absurd hlast Bool.true_eq_false.mp
  rcases List.append_eq_append_iff.1 heq with ⟨x, hx, -⟩ | ⟨x, hx, htag⟩
  · exact hblank x hx
  · cases x with
    | nil => exact hblank [] (by rw [List.append_nil, hx, List.append_nil])
    | cons c x =>
        -- the tag begins in `s`, behind the last blank of the run
        obtain rfl : '<' = c := (List.cons.inj htag).1
        have hpair : [run.getLast hrun.1, '<'] <:+: s := by
          refine ⟨run.dropLast, x, ?_⟩
          have hrun' := List.dropLast_concat_getLast hrun.1
          rw [hx, ← List.singleton_append (x := run.getLast hrun.1), ← List.append_assoc, hrun',
            List.append_assoc, List.singleton_append]
        exact h.untagged _ (hrun.2 _ (List.getLast_mem hrun.1)) (hpair.trans hs.isInfix)

/-- The search for what closes a page stops behind a text if it is found there and at no
    place in the text. -/
theorem closingFrom_append_iff (start : Nat) {a b : Text} :
    closingFrom start (a ++ b) = some (start + octets a) ↔ Text.FirstPlace closesPage a b := by
  -- on the text in front, where each step of the search leaves one character behind
  induction a generalizing start with
  | nil =>
      rw [Text.firstPlace_nil_iff, List.nil_append, octets, Nat.add_zero]
      cases b with
      | nil => exact iff_of_false (fun h => by cases h) (by decide)
      | cons c r =>
          rw [closingFrom]
          by_cases hc : closesPage (c :: r) = true
          · rw [if_pos hc]
            exact iff_of_true rfl hc
          · rw [if_neg hc]
            refine iff_of_false (fun h => ?_) hc
            -- from here on it is found further down only
            rcases closingFrom_eq_some h with ⟨x, y, -, hn, -⟩
            have hpos := c.utf8Size_pos
            omega
  | cons c r ih =>
      rw [Text.firstPlace_cons_iff, List.cons_append, closingFrom, octets]
      by_cases hc : closesPage (c :: (r ++ b)) = true
      · have hpos := c.utf8Size_pos
        rw [if_pos hc, hc]
        exact iff_of_false (fun h => by rw [Option.some.injEq] at h; omega)
          fun h => Bool.true_eq_false.mp h.1
      · rw [if_neg hc, ← Nat.add_assoc, ih, and_iff_right (Bool.eq_false_iff.2 hc)]

theorem popupSlot_append_iff {a b : Text} :
    popupSlot (a ++ b) = .ok (.offset (octets a)) ↔ Text.FirstPlace closesPage a b := by
  rw [← closingFrom_append_iff 0, Nat.zero_add, popupSlot]
  cases closingFrom 0 (a ++ b) with
  | none => exact iff_of_false (fun h => by cases h) fun h => by cases h
  | some n => rw [Except.ok.injEq, Slot.offset.injEq, Option.some.injEq]

/-- The first place where a page is closed stays the first one, if it is closed there and what
    comes in behind bars the way. -/
theorem firstPlace_of_bars {a c s t : Text} (ht : Text.Bars closingWords t)
    (hclosed : closesPage (c ++ t) = true) (h : Text.FirstPlace closesPage a (c ++ s)) :
    Text.FirstPlace closesPage a (c ++ t) := by
  refine ⟨hclosed, fun r hr hra => Bool.eq_false_iff.2 fun hcloses => ?_⟩
  rw [← List.append_assoc] at hcloses
  have hearlier := closesPage_append (closesPage_of_bars ht hcloses) s
  rw [List.append_assoc, h.2 r hr hra] at hearlier
  exact Bool.false_ne_true hearlier

/-- New lines push what closes the page down. -/
theorem popupSlot_insert {a block c b : Text} (hblock : Harmless block)
    (h : popupSlot (a ++ (c ++ b)) = .ok (.offset (octets (a ++ c)))) :
    popupSlot (a ++ (block ++ (c ++ b))) = .ok (.offset (octets (a ++ (block ++ c)))) := by
  rw [← List.append_assoc] at h
  rcases popupSlot_append_iff.1 h with ⟨hb, hnone⟩
  have hassoc : a ++ (block ++ (c ++ b)) = (a ++ (block ++ c)) ++ b := by
    simp only [List.append_assoc]
  rw [hassoc, popupSlot_append_iff]
  refine ⟨hb, fun s hne hs => ?_⟩
  rcases Text.suffix_append_cases hs with hs | ⟨r, hr, hra, rfl⟩
  · rcases Text.suffix_append_cases hs with hs | ⟨r, hr, hrblock, rfl⟩
    · -- behind the new lines
      exact hnone s hne (hs.trans (List.suffix_append a c))
    · rw [List.append_assoc]
      exact hblock.not_closesPage hr hrblock
  · -- in front of the new lines, where the page would be closed without them as well
    refine Bool.eq_false_iff.2 fun hcloses => Bool.eq_false_iff.1
      (hnone (r ++ c) (List.append_ne_nil_of_left_ne_nil hr c) ?_) ?_
    · rcases hra with ⟨z, rfl⟩
      exact ⟨z, by simp only [List.append_assoc]⟩
    · rw [List.append_assoc, List.append_assoc] at hcloses
      rw [List.append_assoc]
      exact closesPage_append (closesPage_of_bars (hblock.bars.append (c ++ b)) hcloses) _

end HelpWiring
