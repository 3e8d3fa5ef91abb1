import HelpWiring.Page.Slot
import HelpWiring.Proofs.Text.Seam

/-!
# How Anchors Are Looked For

The head of the page function is looked for from the start of the page, the
hook site on the twenty lines that begin with the one where the head is, and
the line to import after on all lines. What each search finds, or does not
find, is said here by the places of the page, so that two pages can be compared.

A search that reads one text after another goes on in the second exactly where
it failed in the first, as long as nothing begins in the first and ends in the
second. That is the hypothesis of `pageLineFrom_append`.

## Theorems

* `pageLineFrom_append`: The search through one text after another.
* `pageLineFrom_eq_none_iff`: It fails if a page head is nowhere.
* `pageLineFrom_le`: It does not count more lines than there are.
* `pageLineFrom_add`: It counts on from where it starts.
* `mem_window`: The lines among which a hook site is looked for.
* `hookSlot_eq_error`: Why there is no slot for the hook call.
* `importSlot_eq_error_iff`, `hookSlot_eq_noPageFunction_iff`,
  `hookSlot_eq_noHookSite_iff`: When an anchor is missing.
-/

namespace HelpWiring

theorem pageLineFrom_append {a t : Text}
    (h : ∀ s, s ≠ [] → s <:+ a → opensPage (s ++ t) = opensPage s) (k : Nat) :
    pageLineFrom k (a ++ t) = (pageLineFrom k a).or (pageLineFrom (k + a.count '\n') t) := by
  induction a generalizing k with
  | nil => rfl
  | cons c r ih =>
      -- a head that begins here ends in the first text, or there is none
      have hhere : opensPage (c :: (r ++ t)) = opensPage (c :: r) :=
        h (c :: r) (List.cons_ne_nil c r) List.suffix_rfl
      have hrest := ih fun s hne hs => h s hne (hs.trans (List.suffix_cons c r))
      rw [List.cons_append, pageLineFrom, pageLineFrom, hhere]
      by_cases hopen : opensPage (c :: r) = true
      · rw [if_pos hopen, if_pos hopen]
        rfl
      · rw [if_neg hopen, if_neg hopen, hrest]
        by_cases hc : c = '\n'
        · subst hc
          rw [if_pos rfl, List.count_cons_self, Nat.add_assoc, Nat.add_comm 1]
        · rw [if_neg hc, List.count_cons_of_ne hc]

theorem pageLineFrom_eq_none_iff {k : Nat} {t : Text} :
    pageLineFrom k t = none ↔ ∀ s, s ≠ [] → s <:+ t → opensPage s = false := by
  induction t generalizing k with
  | nil =>
      refine ⟨fun _ s hne hs => absurd (List.suffix_nil.1 hs) hne, fun _ => rfl⟩
  | cons c r ih =>
      rw [pageLineFrom]
      constructor
      · intro h s hne hs
        by_cases hopen : opensPage (c :: r) = true
        · rw [if_pos hopen] at h
          simp only [reduceCtorEq] at h
        · rw [if_neg hopen] at h
          rcases List.suffix_cons_iff.1 hs with rfl | hs
          · exact Bool.eq_false_iff.2 hopen
          · exact ih.1 h s hne hs
      · intro h
        have hopen := h (c :: r) (List.cons_ne_nil c r) List.suffix_rfl
        rw [if_neg (Bool.eq_false_iff.1 hopen)]
        exact ih.2 fun s hne hs => h s hne (hs.trans (List.suffix_cons c r))

theorem pageLineFrom_le {k n : Nat} {t : Text} (h : pageLineFrom k t = some n) :
    k ≤ n ∧ n ≤ k + t.count '\n' := by
  induction t generalizing k with
  | nil => simp only [pageLineFrom, reduceCtorEq] at h
  | cons c r ih =>
      rw [pageLineFrom] at h
      by_cases hopen : opensPage (c :: r) = true
      · rw [if_pos hopen, Option.some.injEq] at h
        omega
      · rw [if_neg hopen] at h
        have hrest := ih h
        by_cases hc : c = '\n'
        · subst hc
          rw [if_pos rfl] at hrest
          rw [List.count_cons_self]
          omega
        · rw [if_neg hc] at hrest
          rw [List.count_cons_of_ne hc]
          exact hrest

theorem pageLineFrom_add (k m : Nat) (t : Text) :
    pageLineFrom (k + m) t = (pageLineFrom k t).map (· + m) := by
  induction t generalizing k with
  | nil => rfl
  | cons c r ih =>
      rw [pageLineFrom, pageLineFrom]
      by_cases hopen : opensPage (c :: r) = true
      · rw [if_pos hopen, if_pos hopen]
        rfl
      · rw [if_neg hopen, if_neg hopen, ← ih]
        by_cases hc : c = '\n'
        · rw [if_pos hc, if_pos hc, Nat.add_right_comm]
        · rw [if_neg hc, if_neg hc]

theorem mem_window {α : Type} {lines : List α} {start count index : Nat} {line : α} :
    (line, index) ∈ (lines.zipIdx.drop start).take count
      ↔ start ≤ index ∧ index < start + count ∧ lines[index]? = some line := by
  rw [List.mem_iff_getElem?]
  constructor
  · rintro ⟨i, hi⟩
    rw [List.getElem?_take] at hi
    by_cases hlt : i < count
    · rw [if_pos hlt, List.getElem?_drop, List.getElem?_zipIdx, Option.map_eq_some_iff] at hi
      rcases hi with ⟨l, hl, heq⟩
      rw [Prod.mk.injEq] at heq
      rcases heq with ⟨rfl, rfl⟩
      rw [Nat.zero_add]
      exact ⟨by omega, by omega, hl⟩
    · rw [if_neg hlt] at hi
      simp only [reduceCtorEq] at hi
  · rintro ⟨hlow, hhigh, hline⟩
    refine ⟨index - start, ?_⟩
    have hindex : start + (index - start) = index := by omega
    rw [List.getElem?_take, if_pos (by omega), List.getElem?_drop, List.getElem?_zipIdx, hindex,
      hline, Option.map_some, Nat.zero_add]

theorem importSlot_eq_error_iff {page : Text} {reason : AnchorFault} :
    importSlot page = .error reason
      ↔ reason = .noImportLine ∧ ∀ line ∈ page.lines, isImportLine line = false := by
  rw [← List.findIdx?_eq_none_iff, importSlot]
  cases page.lines.findIdx? isImportLine with
  | none =>
      simp only [Except.error.injEq, and_true]
      exact eq_comm
  | some i => simp only [reduceCtorEq, and_false]

theorem hookSlot_eq_error {page : Text} {reason : AnchorFault} (h : hookSlot page = .error reason) :
    reason = .noPageFunction ∨ reason = .noHookSite := by
  simp only [hookSlot] at h
  split at h
  · exact Or.inl (Except.error.inj h).symm
  · split at h
    · simp only [reduceCtorEq] at h
    · exact Or.inr (Except.error.inj h).symm

theorem hookSlot_eq_noPageFunction_iff {page : Text} :
    hookSlot page = .error .noPageFunction ↔ pageLine page = none := by
  simp only [hookSlot]
  cases pageLine page with
  | none => simp only
  | some start =>
      simp only [reduceCtorEq, iff_false]
      split <;> simp only [Except.error.injEq, reduceCtorEq, not_false_eq_true]

theorem hookSlot_eq_noHookSite_iff {page : Text} :
    hookSlot page = .error .noHookSite ↔ ∃ start, pageLine page = some start
      ∧ ∀ index line, start ≤ index → index < start + hookReach →
          page.lines[index]? = some line → isHookSite line = false := by
  simp only [hookSlot]
  cases pageLine page with
  | none => simp only [Except.error.injEq, reduceCtorEq, false_and, exists_false]
  | some start =>
      simp only [Option.some.injEq, exists_eq_left']
      have hnone : ((page.lines.zipIdx.drop start).take hookReach).find?
            (fun x => isHookSite x.1) = none
          ↔ ∀ index line, start ≤ index → index < start + hookReach →
              page.lines[index]? = some line → isHookSite line = false := by
        rw [List.find?_eq_none]
        constructor
        · intro h index line hlow hhigh hline
          exact Bool.eq_false_iff.2 (h (line, index) (mem_window.2 ⟨hlow, hhigh, hline⟩))
        · rintro h ⟨line, index⟩ hmem
          rcases mem_window.1 hmem with ⟨hlow, hhigh, hline⟩
          exact Bool.eq_false_iff.1 (h index line hlow hhigh hline)
      rw [← hnone]
      split
      · rename_i line index hfind
        rw [hfind]
        simp only [reduceCtorEq]
      · rename_i hfind
        simp only [hfind]

end HelpWiring
