import HelpWiring.Page.Cleaning
import HelpWiring.Proofs.Text.Seam
import Mathlib.Tactic.ByContra

/-!
# What Cleaning Keeps

Cleaning goes through the lines of a page with two flags, one for each import.
What it does with the lines below some place depends on the lines above it only
through the flags, and `keepFirst_append` says what these are by then. The flag
of the hook is up if a line above mentions the hook's import. The flag of the
popup is up if a line above mentions the popup's import and stayed.

The two are not alike, and that shows where a line mentions both imports. Such
a line goes if it repeats either of them, and the other import goes with it. If
that was the first mention of the hook, its flag is up all the same, and all
further mentions of the hook go too: the page has lost its import. The popup is
lost in another way. A line that repeats the hook never gets as far as the flag
of the popup, so a later line can still bring the popup, but only one that does
not repeat the hook.

`clean_keepsFirst_iff` says exactly when an import stays where it first was, and
when it is lost. A page where each import is on one line at most is left alone.

## Main definitions

* `repeats`: Whether a line repeats an import.
* `FirstMention`: The first line that mentions an import.
* `Page.KeepsFirst`: That line is still the first one once the page is cleaned.
* `Page.Loses`: The cleaned page has an import no more.
* `Page.importCount`: How many lines of a page mention an import.

## Theorems

* `keepFirst_cons`: What becomes of one line.
* `keepFirst_append`: Cleaning of some lines and then of others.
* `find?_hook_keepFirst`, `find?_popup_keepFirst_iff`: What becomes of the first
  mention of an import.
* `exists_popup_keepFirst_iff`: When a mention of the popup stays.
* `loses_hook_iff`, `loses_popup_iff`: When an import is lost.
* `clean_keepsFirst_iff`: When a first mention stays, and when an import is lost.
* `imports_lost`: Two pages that lose an import.
* `clean_eq_self_iff`: Which pages are left alone.
-/

namespace HelpWiring

/-- A line goes if it repeats either import, and has put the flag of the hook up all the
    same. -/
theorem keepFirst_cons (seenHook seenPopup : Bool) (line : Text) (more : List Text) :
    keepFirst seenHook seenPopup (line :: more)
      = if line.mentions hookImport && seenHook || line.mentions popupImport && seenPopup then
          keepFirst (seenHook || line.mentions hookImport) seenPopup more
        else line :: keepFirst (seenHook || line.mentions hookImport)
          (seenPopup || line.mentions popupImport) more := by
  rw [keepFirst]
  cases line.mentions hookImport <;> cases line.mentions popupImport <;> cases seenHook <;>
    cases seenPopup <;> rfl

/-- Lines go, and those that stay keep their order. -/
theorem keepFirst_sublist (seenHook seenPopup : Bool) (ls : List Text) :
    (keepFirst seenHook seenPopup ls).Sublist ls := by
  induction ls generalizing seenHook seenPopup with
  | nil => exact List.Sublist.refl _
  | cons line more ih =>
      rw [keepFirst_cons]
      split
      · exact (ih _ _).cons line
      · exact (ih _ _).cons_cons line

theorem keepFirst_append (seenHook seenPopup : Bool) (above below : List Text) :
    keepFirst seenHook seenPopup (above ++ below)
      = keepFirst seenHook seenPopup above
        ++ keepFirst (seenHook || above.any (·.mentions hookImport))
          (seenPopup || (keepFirst seenHook seenPopup above).any (·.mentions popupImport))
          below := by
  -- the rest of the lines above starts with the flags that the first one leaves
  induction above generalizing seenHook seenPopup with
  | nil => simp only [List.nil_append, keepFirst, List.any_nil, Bool.or_false]
  | cons line more ih =>
      rw [List.cons_append, keepFirst_cons, keepFirst_cons, List.any_cons, ← Bool.or_assoc]
      split
      · exact ih _ _
      · rw [ih, List.cons_append, List.any_cons, ← Bool.or_assoc seenPopup]

/-- Whether a line repeats an import that a line above it mentions. -/
def repeats (imp : Text) (above : List Text) (line : Text) : Bool :=
  line.mentions imp && above.any (·.mentions imp)

/-- The first line that mentions an import, and the lines above it. -/
structure FirstMention (imp : Text) (ls above : List Text) (line : Text) : Prop where
  place : ∃ below, ls = above ++ line :: below
  here : line.mentions imp = true
  first : ∀ l ∈ above, l.mentions imp = false

theorem exists_firstMention {imp : Text} {ls : List Text} (h : ∃ l ∈ ls, l.mentions imp = true) :
    ∃ above line, FirstMention imp ls above line := by
  rcases Option.isSome_iff_exists.1 (List.find?_isSome.2 h) with ⟨line, hline⟩
  rcases List.find?_eq_some_iff_append.1 hline with ⟨hhere, above, below, hls, hfirst⟩
  refine ⟨above, line, ⟨below, hls⟩, hhere, fun l hl => ?_⟩
  have hno := hfirst l hl
  rwa [Bool.not_eq_true'] at hno

section

variable {imp line : Text} {ls above : List Text}

theorem FirstMention.find? (h : FirstMention imp ls above line) :
    ls.find? (·.mentions imp) = some line := by
  rcases h.place with ⟨below, hls⟩
  refine List.find?_eq_some_iff_append.2 ⟨h.here, above, below, hls, fun l hl => ?_⟩
  rw [h.first l hl]
  rfl

theorem FirstMention.any_above (h : FirstMention imp ls above line) :
    above.any (·.mentions imp) = false := by
  rw [List.any_eq_false]
  intro l hl
  rw [h.first l hl]
  exact Bool.false_ne_true

theorem FirstMention.find?_keepFirst_above (h : FirstMention imp ls above line)
    (seenHook seenPopup : Bool) :
    (keepFirst seenHook seenPopup above).find? (·.mentions imp) = none := by
  rw [List.find?_eq_none]
  intro l hl
  rw [h.first l ((keepFirst_sublist seenHook seenPopup above).mem hl)]
  exact Bool.false_ne_true

end

/-- Once the hook's import was seen, no line stays that mentions it. -/
theorem not_mentions_of_mem_keepFirst {seenPopup : Bool} {ls : List Text} :
    ∀ l ∈ keepFirst true seenPopup ls, l.mentions hookImport = false := by
  induction ls generalizing seenPopup with
  | nil => exact fun l hl => absurd hl List.not_mem_nil
  | cons line more ih =>
      intro l hl
      rw [keepFirst_cons, Bool.and_true, Bool.true_or] at hl
      split at hl
      · exact ih l hl
      · rename_i hstays
        rcases List.mem_cons.1 hl with rfl | hl
        · rw [Bool.not_eq_true, Bool.or_eq_false_iff] at hstays
          exact hstays.1
        · exact ih l hl

/-- Among lines without the hook's import, one that mentions the popup's stays if there is
    one. -/
theorem any_popup_keepFirst (seenHook seenPopup : Bool) {ls : List Text}
    (h : ∀ l ∈ ls, l.mentions hookImport = false) :
    (seenPopup || (keepFirst seenHook seenPopup ls).any (·.mentions popupImport))
      = (seenPopup || ls.any (·.mentions popupImport)) := by
  induction ls generalizing seenHook seenPopup with
  | nil => rfl
  | cons line more ih =>
      rw [List.forall_mem_cons] at h
      -- no line goes because of the hook, so the first one with the popup stays
      cases seenPopup with
      | true => rw [Bool.true_or, Bool.true_or]
      | false =>
          have hrest := ih (seenHook || false) (line.mentions popupImport) h.2
          rw [keepFirst_cons, h.1, Bool.false_and, Bool.and_false, Bool.or_self,
            if_neg Bool.false_ne_true, List.any_cons, List.any_cons, Bool.false_or, Bool.false_or,
            Bool.false_or]
          exact hrest

/-- The first mention of the hook stays unless its line repeats the popup. Then there is no
    mention of the hook left. -/
theorem find?_hook_keepFirst {ls above : List Text} {line : Text}
    (h : FirstMention hookImport ls above line) :
    (keepFirst false false ls).find? (·.mentions hookImport)
      = if repeats popupImport above line then none else some line := by
  rcases h.place with ⟨below, rfl⟩
  have hseen := any_popup_keepFirst false false h.first
  rw [keepFirst_append, List.find?_append, h.find?_keepFirst_above, Option.none_or, h.any_above,
    hseen, Bool.or_false, Bool.false_or, keepFirst_cons, Bool.and_false, Bool.false_or, h.here,
    ← repeats]
  split
  · -- the line goes with the flag of the hook up
    rw [List.find?_eq_none]
    intro l hl
    rw [not_mentions_of_mem_keepFirst l hl]
    exact Bool.false_ne_true
  · exact List.find?_cons_of_pos h.here

/-- The first mention of the popup stays unless its line repeats the hook. -/
theorem find?_popup_keepFirst_iff {ls above : List Text} {line : Text}
    (h : FirstMention popupImport ls above line) :
    (keepFirst false false ls).find? (·.mentions popupImport) = some line
      ↔ repeats hookImport above line = false := by
  rcases h.place with ⟨below, rfl⟩
  have hseen : (keepFirst false false above).any (·.mentions popupImport) = false := by
    rw [List.any_eq_false]
    exact List.find?_eq_none.1 (h.find?_keepFirst_above false false)
  rw [keepFirst_append, List.find?_append, h.find?_keepFirst_above, Option.none_or, hseen,
    Bool.false_or, Bool.or_false, keepFirst_cons, Bool.and_false, Bool.or_false, ← repeats]
  cases hrepeats : repeats hookImport above line with
  | true =>
      rcases Bool.and_eq_true_iff.1 hrepeats with ⟨hhook, habove⟩
      rw [if_pos rfl, habove]
      refine iff_of_false (fun hfind => ?_) Bool.true_eq_false.mp
      -- a line like this one is not found below it, as it mentions the hook
      have hno := not_mentions_of_mem_keepFirst line (List.mem_of_find?_eq_some hfind)
      rw [hhook] at hno
      exact Bool.true_eq_false.mp hno
  | false =>
      rw [if_neg Bool.false_ne_true]
      exact iff_of_true (List.find?_cons_of_pos h.here) rfl

/-- A line that stays does not repeat the hook. -/
theorem exists_of_mem_keepFirst {seenHook seenPopup : Bool} {ls : List Text} {line : Text}
    (h : line ∈ keepFirst seenHook seenPopup ls) :
    ∃ above below, ls = above ++ line :: below
      ∧ (line.mentions hookImport && (seenHook || above.any (·.mentions hookImport))) = false := by
  induction ls generalizing seenHook seenPopup with
  | nil => exact absurd h List.not_mem_nil
  | cons first more ih =>
      -- a line further down comes with the first one above it
      have hmore : ∀ {seenPopup' : Bool},
          line ∈ keepFirst (seenHook || first.mentions hookImport) seenPopup' more →
          ∃ above below, first :: more = above ++ line :: below
            ∧ (line.mentions hookImport
              && (seenHook || above.any (·.mentions hookImport))) = false := by
        intro _ hline
        rcases ih hline with ⟨above, below, rfl, hfresh⟩
        refine ⟨first :: above, below, rfl, ?_⟩
        rw [List.any_cons, ← Bool.or_assoc]
        exact hfresh
      rw [keepFirst_cons] at h
      split at h
      · exact hmore h
      · rename_i hstays
        rcases List.mem_cons.1 h with rfl | h
        · rw [Bool.not_eq_true, Bool.or_eq_false_iff] at hstays
          refine ⟨[], more, rfl, ?_⟩
          rw [List.any_nil, Bool.or_false]
          exact hstays.1
        · exact hmore h

/-- A mention of the popup stays if there is one on a line that does not repeat the hook. -/
theorem exists_popup_keepFirst_iff {ls : List Text} :
    (∃ line ∈ keepFirst false false ls, line.mentions popupImport = true)
      ↔ ∃ above line below, ls = above ++ line :: below ∧ line.mentions popupImport = true
        ∧ repeats hookImport above line = false := by
  constructor
  · rintro ⟨line, hline, hpopup⟩
    rcases exists_of_mem_keepFirst hline with ⟨above, below, hls, hfresh⟩
    exact ⟨above, line, below, hls, hpopup, hfresh⟩
  · rintro ⟨above, line, below, rfl, hpopup, hfresh⟩
    rw [keepFirst_append, Bool.false_or, Bool.false_or]
    by_cases hseen : (keepFirst false false above).any (·.mentions popupImport) = true
    · -- one above it has stayed
      rcases List.any_eq_true.1 hseen with ⟨l, hl, hmentions⟩
      exact ⟨l, List.mem_append_left _ hl, hmentions⟩
    · refine ⟨line, List.mem_append_right _ ?_, hpopup⟩
      rw [keepFirst_cons, ← repeats, hfresh, Bool.eq_false_iff.2 hseen, Bool.and_false,
        Bool.or_self, if_neg Bool.false_ne_true]
      exact List.mem_cons_self

theorem countP_mentions_cons (imp line : Text) (more : List Text) :
    (line :: more).countP (·.mentions imp)
      = more.countP (·.mentions imp) + (line.mentions imp).toNat := by
  rw [List.countP_cons]
  cases line.mentions imp <;> rfl

/-- A flag that goes up on a line stands for that line, if it was down before. -/
theorem toNat_seen_add_countP {imp line : Text} {more : List Text} {seen : Bool}
    (h : (line.mentions imp && seen) = false) :
    (seen || line.mentions imp).toNat + more.countP (·.mentions imp)
      = seen.toNat + (line :: more).countP (·.mentions imp) := by
  have hflag : (seen || line.mentions imp).toNat = seen.toNat + (line.mentions imp).toNat := by
    revert h
    cases line.mentions imp <;> cases seen <;> simp
  rw [hflag, countP_mentions_cons]
  omega

/-- A line that repeats an import is one too many. -/
theorem not_toNat_add_countP_le {imp line : Text} {more : List Text} {seen : Bool}
    (h : (line.mentions imp && seen) = true) :
    ¬ seen.toNat + (line :: more).countP (·.mentions imp) ≤ 1 := by
  rcases Bool.and_eq_true_iff.1 h with ⟨hline, rfl⟩
  rw [countP_mentions_cons, hline, Bool.toNat_true]
  omega

/-- All lines stay if each import is on one of them at most, the ones seen before included. -/
theorem keepFirst_eq_self_iff (seenHook seenPopup : Bool) (ls : List Text) :
    keepFirst seenHook seenPopup ls = ls
      ↔ seenHook.toNat + ls.countP (·.mentions hookImport) ≤ 1
        ∧ seenPopup.toNat + ls.countP (·.mentions popupImport) ≤ 1 := by
  induction ls generalizing seenHook seenPopup with
  | nil => exact iff_of_true rfl ⟨seenHook.toNat_le, seenPopup.toNat_le⟩
  | cons line more ih =>
      -- where the line goes, there are fewer lines than before
      have hgoes : ∀ h p, keepFirst h p more ≠ line :: more := by
        intro h p heq
        have hlength := (keepFirst_sublist h p more).length_le
        rw [heq, List.length_cons] at hlength
        omega
      rw [keepFirst_cons]
      split
      · rename_i hrepeats
        refine iff_of_false (hgoes _ _) fun hcounts => ?_
        rcases Bool.or_eq_true_iff.1 hrepeats with hhook | hpopup
        · exact not_toNat_add_countP_le hhook hcounts.1
        · exact not_toNat_add_countP_le hpopup hcounts.2
      · rename_i hstays
        rw [Bool.not_eq_true, Bool.or_eq_false_iff] at hstays
        rw [List.cons_inj_right, ih, toNat_seen_add_countP hstays.1,
          toNat_seen_add_countP hstays.2]

namespace Page

/-- The first line always stays, so the lines that stay are those of the cleaned page. -/
theorem lines_clean (page : Text) : (clean page).lines = keepFirst false false page.lines := by
  refine Text.cut_glue ?_ fun line hline => ?_
  · rcases Text.exists_cut_cons '\n' page with ⟨line, more, hls⟩
    rw [Text.lines, hls, keepFirst_cons, Bool.and_false, Bool.and_false, Bool.or_self,
      if_neg Bool.false_ne_true]
    exact List.cons_ne_nil _ _
  · exact Text.notMem_of_mem_cut ((keepFirst_sublist false false page.lines).mem hline)

/-- The first line of a page that mentions an import is still the first one once the page
    is cleaned. -/
def KeepsFirst (page imp : Text) : Prop :=
  (clean page).lines.find? (·.mentions imp) = page.lines.find? (·.mentions imp)

/-- A page mentions an import on some line, and the cleaned page on none. -/
def Loses (page imp : Text) : Prop :=
  (∃ line ∈ page.lines, line.mentions imp = true)
    ∧ ∀ line ∈ (clean page).lines, line.mentions imp = false

/-- What is on no line is on no line of the cleaned page. -/
theorem keepsFirst_of_not_mentioned {page imp : Text}
    (h : ¬ ∃ line ∈ page.lines, line.mentions imp = true) : KeepsFirst page imp := by
  have hnone : page.lines.find? (·.mentions imp) = none :=
    List.find?_eq_none.2 fun line hline hmentions => h ⟨line, hline, hmentions⟩
  rw [KeepsFirst, hnone, List.find?_eq_none, lines_clean]
  intro line hline hmentions
  exact h ⟨line, (keepFirst_sublist false false page.lines).mem hline, hmentions⟩

/-- A statement about the first mention of an import holds if the first mention, where
    there is one, satisfies it. -/
theorem keepsFirst_iff_of_first {page imp : Text} {P : List Text → Text → Prop}
    (h : ∀ above line, FirstMention imp page.lines above line →
      ((clean page).lines.find? (·.mentions imp) = some line ↔ P above line)) :
    KeepsFirst page imp ↔ ∀ above line, FirstMention imp page.lines above line → P above line := by
  constructor
  · intro hkeeps above line hfirst
    exact (h above line hfirst).1 (hkeeps.trans hfirst.find?)
  · -- without a first mention nothing is asked, and nothing is kept
    intro hall
    by_cases hmentioned : ∃ line ∈ page.lines, line.mentions imp = true
    · rcases exists_firstMention hmentioned with ⟨above, line, hfirst⟩
      exact ((h above line hfirst).2 (hall above line hfirst)).trans hfirst.find?.symm
    · exact keepsFirst_of_not_mentioned hmentioned

theorem find?_hook_clean_iff {page line : Text} {above : List Text}
    (h : FirstMention hookImport page.lines above line) :
    (clean page).lines.find? (·.mentions hookImport) = some line
      ↔ repeats popupImport above line = false := by
  rw [lines_clean, find?_hook_keepFirst h]
  cases repeats popupImport above line with
  | true => exact iff_of_false (fun hfind => nomatch hfind) Bool.true_eq_false.mp
  | false => exact iff_of_true rfl rfl

/-- The hook's import is lost with its first mention. -/
theorem loses_hook_iff (page : Text) :
    Loses page hookImport ↔ ¬ KeepsFirst page hookImport := by
  constructor
  · rintro ⟨hmentioned, hnone⟩ hkeeps
    rcases exists_firstMention hmentioned with ⟨above, line, hfirst⟩
    have hfind := hkeeps.trans hfirst.find?
    have hno := hnone line (List.mem_of_find?_eq_some hfind)
    rw [hfirst.here] at hno
    exact Bool.true_eq_false.mp hno
  · intro hgone
    have hmentioned : ∃ line ∈ page.lines, line.mentions hookImport = true := by
      by_contra hno
      exact hgone (keepsFirst_of_not_mentioned hno)
    rcases exists_firstMention hmentioned with ⟨above, line, hfirst⟩
    refine ⟨hmentioned, fun l hl => Bool.eq_false_iff.2 ?_⟩
    -- its first mention is not the first one any more, so there is none
    cases hrepeats : repeats popupImport above line with
    | false =>
        have hfind := (find?_hook_clean_iff hfirst).2 hrepeats
        exact absurd (hfind.trans hfirst.find?.symm) hgone
    | true =>
        have hfind := find?_hook_keepFirst hfirst
        rw [hrepeats, if_pos rfl, ← lines_clean, List.find?_eq_none] at hfind
        exact hfind l hl

/-- The popup's import is lost if it is only on lines that repeat the hook's. -/
theorem loses_popup_iff (page : Text) :
    Loses page popupImport ↔ (∃ line ∈ page.lines, line.mentions popupImport = true)
      ∧ ∀ above line below, page.lines = above ++ line :: below →
        line.mentions popupImport = true → repeats hookImport above line = true := by
  refine and_congr_right fun _ => ?_
  rw [lines_clean]
  constructor
  · intro hnone above line below hls hpopup
    by_contra hrepeats
    rcases exists_popup_keepFirst_iff.2
      ⟨above, line, below, hls, hpopup, Bool.eq_false_iff.2 hrepeats⟩ with ⟨l, hl, hmentions⟩
    rw [hnone l hl] at hmentions
    exact Bool.false_ne_true hmentions
  · intro hall line hline
    refine Bool.eq_false_iff.2 fun hmentions => ?_
    rcases exists_popup_keepFirst_iff.1 ⟨line, hline, hmentions⟩ with
      ⟨above, l, below, hls, hpopup, hfresh⟩
    rw [hall above l below hls hpopup] at hfresh
    exact Bool.true_eq_false.mp hfresh

/-- When the first mention of an import stays, and when all mentions of it go. -/
theorem clean_keepsFirst_iff (page : Text) :
    (KeepsFirst page hookImport ↔ ∀ above line,
      FirstMention hookImport page.lines above line → repeats popupImport above line = false)
    ∧ (KeepsFirst page popupImport ↔ ∀ above line,
      FirstMention popupImport page.lines above line → repeats hookImport above line = false)
    ∧ (Loses page hookImport ↔ ¬ KeepsFirst page hookImport)
    ∧ (Loses page popupImport ↔ (∃ line ∈ page.lines, line.mentions popupImport = true)
      ∧ ∀ above line below, page.lines = above ++ line :: below →
        line.mentions popupImport = true → repeats hookImport above line = true) := by
  refine ⟨keepsFirst_iff_of_first fun above line => find?_hook_clean_iff,
    keepsFirst_iff_of_first fun above line hfirst => ?_, loses_hook_iff page, loses_popup_iff page⟩
  rw [lines_clean]
  exact find?_popup_keepFirst_iff hfirst

/-- The popup on a line and then both on one: the hook goes with the second line. Two
    hooks, the second one on a line with the popup: the popup goes. -/
theorem imports_lost :
    Loses (popupImport ++ ";\n".toList ++ hookImport ++ "; ".toList ++ popupImport ++ [';'])
      hookImport
    ∧ Loses (hookImport ++ ";\n".toList ++ hookImport ++ "; ".toList ++ popupImport ++ [';'])
      popupImport :=
  ⟨⟨by decide +kernel, by decide +kernel⟩, ⟨by decide +kernel, by decide +kernel⟩⟩

/-- How many lines of a page mention an import. -/
def importCount (page imp : Text) : Nat := page.lines.countP (·.mentions imp)

theorem importCount_eq_zero_iff {page imp : Text} :
    importCount page imp = 0 ↔ ∀ line ∈ page.lines, line.mentions imp = false := by
  rw [importCount, List.countP_eq_zero]
  simp only [Bool.not_eq_true]

theorem clean_eq_self_iff (page : Text) :
    clean page = page ↔ importCount page hookImport ≤ 1 ∧ importCount page popupImport ≤ 1 := by
  have hlines : clean page = page ↔ keepFirst false false page.lines = page.lines := by
    rw [← lines_clean]
    constructor
    · intro h
      rw [h]
    · intro h
      have hglue := congrArg (Text.glue '\n') h
      rwa [Text.glue_cut, Text.glue_cut] at hglue
  rw [hlines, keepFirst_eq_self_iff, Bool.toNat_false, Nat.zero_add, Nat.zero_add]
  rfl

end Page

end HelpWiring
