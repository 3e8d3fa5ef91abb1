import HelpWiring.Proofs.Page.Closing
import HelpWiring.Proofs.Page.Insertion
import HelpWiring.Proofs.Text.Places
import Mathlib.Data.List.Basic
import Mathlib.Data.Set.Basic

/-!
# The Tail of a Page

What closes a page is its tail, and the popup element goes in front of the first
one. That is said here without a search: a tail is put together from three fixed
words, each behind blanks, and of all the places where one begins the slot is
the least. Many texts begin like a tail and turn out to be none, a closing tag
that another one follows, or the end of what is returned without the end of the
function. They are not passed over by any rule, they are just not in the set.

The blanks in front of the closing tag belong to the tail however many they are.
A tail that begins behind a blank is therefore never the first one, for with the
blank in front it is a tail as well.

## Main definitions

* `IsTail`: The grammar of tails.
* `tailPlaces`: Where tails begin, in octets.

## Theorems

* `closesPage_iff_isTail`: The search looks for tails.
* `popupSlot_eq_ok_iff`, `popupSlot_eq_error_iff`: What it ends with.
* `closesPage_cons`: One more blank in front of a tail.
* `popupSlot_grammar`: The slot of the popup element, by the grammar.
-/

namespace HelpWiring

/-- The tail of a page: a closing tag, the end of what is returned and the end of the
    function, each behind a run of blanks, and anything behind them. -/
def IsTail (t : Text) : Prop :=
  ∃ run₁ run₂ run₃ rest,
    t = run₁ ++ ("</div>".toList ++ (run₂ ++ (");".toList ++ (run₃ ++ '\x7d' :: rest))))
      ∧ Text.IsGap run₁ ∧ Text.IsGap run₂ ∧ Text.IsGap run₃

/-- How many octets lead to the tails of a page. -/
def tailPlaces (page : Text) : Set Nat :=
  {n | ∃ front tail, page = front ++ tail ∧ octets front = n ∧ IsTail tail}

theorem closesPage_iff_isTail {t : Text} : closesPage t = true ↔ IsTail t := closesPage_iff

/-- The search stops at the first place with a tail behind it. -/
theorem popupSlot_eq_ok_iff {page : Text} {slot : Slot} :
    popupSlot page = .ok slot ↔ ∃ front tail, page = front ++ tail
      ∧ slot = .offset (octets front) ∧ Text.FirstPlace closesPage front tail := by
  constructor
  · intro h
    rcases popupSlot_eq_ok h with ⟨front, tail, rfl, rfl, -⟩
    exact ⟨front, tail, rfl, rfl, popupSlot_append_iff.1 h⟩
  · rintro ⟨front, tail, rfl, rfl, hfirst⟩
    exact popupSlot_append_iff.2 hfirst

/-- It fails for one reason only. -/
theorem popupSlot_eq_error_iff {page : Text} {reason : AnchorFault} :
    popupSlot page = .error reason
      ↔ reason = .noClosingBlock ∧ ∀ t, t <:+ page → closesPage t = false := by
  cases h : popupSlot page with
  | ok slot =>
      -- then there is a tail
      rcases popupSlot_eq_ok h with ⟨front, tail, rfl, -, htail⟩
      refine iff_of_false (fun h => nomatch h) fun ⟨_, hnone⟩ => ?_
      rw [hnone tail (List.suffix_append front tail)] at htail
      exact Bool.false_ne_true htail
  | error found =>
      have hfound : found = .noClosingBlock := by
        rw [popupSlot] at h
        split at h
        · cases h
        · exact (Except.error.inj h).symm
      have hnone : ∀ t, t <:+ page → closesPage t = false := by
        intro t ht
        refine Bool.eq_false_iff.2 fun htail => ?_
        rcases Text.exists_firstPlace ht htail with ⟨front, tail, rfl, hfirst⟩
        rw [popupSlot_append_iff.2 hfirst] at h
        cases h
      rw [Except.error.injEq, hfound, and_iff_left hnone]
      exact eq_comm

theorem closesPage_cons {c : Char} {t : Text} (hc : isBlank c = true)
    (h : closesPage t = true) : closesPage (c :: t) = true := by
  rcases closesPage_iff_isTail.1 h with ⟨run₁, run₂, run₃, rest, rfl, ⟨-, hrun₁⟩, hrun₂, hrun₃⟩
  refine closesPage_iff_isTail.2 ⟨c :: run₁, run₂, run₃, rest, rfl, ⟨List.cons_ne_nil c run₁, ?_⟩,
    hrun₂, hrun₃⟩
  intro d hd
  rcases List.mem_cons.1 hd with rfl | hd
  · exact hc
  · exact hrun₁ d hd

/-- In front of the first tail there is no blank. -/
theorem isBlank_of_firstPlace {front tail : Text} (h : Text.FirstPlace closesPage front tail) :
    ∀ c ∈ front.getLast?, isBlank c = false := by
  intro c hc
  refine Bool.eq_false_iff.2 fun hblank => ?_
  have hlast := List.dropLast_append_getLast? c hc
  -- together with the blank it would be a tail that begins further to the front
  have hnone := h.2 [c] (List.cons_ne_nil c []) ⟨front.dropLast, hlast⟩
  rw [List.singleton_append, closesPage_cons hblank h.1] at hnone
  exact Bool.true_eq_false.mp hnone

theorem tailPlaces_eq (page : Text) :
    tailPlaces page
      = {n | ∃ front tail, page = front ++ tail ∧ octets front = n ∧ closesPage tail = true} := by
  simp only [tailPlaces, closesPage_iff_isTail]

theorem tailPlaces_eq_empty_iff {page : Text} :
    tailPlaces page = ∅ ↔ ∀ t, t <:+ page → closesPage t = false := by
  rw [tailPlaces_eq, Set.eq_empty_iff_forall_notMem]
  constructor
  · rintro h t ⟨front, rfl⟩
    exact Bool.eq_false_iff.2 fun htail => h (octets front) ⟨front, t, rfl, rfl, htail⟩
  · rintro h n ⟨front, tail, rfl, rfl, htail⟩
    rw [h tail (List.suffix_append front tail)] at htail
    exact Bool.false_ne_true htail

/-- The slot of the popup element is where the first tail begins, and there is none if
    there is no tail. The page can be cut there, and all blanks in front of the closing tag
    are behind that place. -/
theorem popupSlot_grammar (page : Text) :
    (∀ slot, popupSlot page = .ok slot ↔ ∃ n, slot = .offset n ∧ IsLeast (tailPlaces page) n)
    ∧ (∀ reason, popupSlot page = .error reason
      ↔ reason = .noClosingBlock ∧ tailPlaces page = ∅)
    ∧ ∀ n, popupSlot page = .ok (.offset n) → Text.OnEdge page n
      ∧ ∃ front run back, page = front ++ (run ++ ("</div>".toList ++ back)) ∧ octets front = n
        ∧ Text.IsGap run ∧ (n = 0 ∨ ∃ c, front.getLast? = some c ∧ isBlank c = false) := by
  refine ⟨fun slot => ?_, fun reason => ?_, fun n h => ?_⟩
  · rw [popupSlot_eq_ok_iff]
    simp only [tailPlaces_eq, Text.isLeast_octets_iff]
    constructor
    · rintro ⟨front, tail, hpage, rfl, hfirst⟩
      exact ⟨_, rfl, front, tail, hpage, rfl, hfirst⟩
    · rintro ⟨_, rfl, front, tail, hpage, rfl, hfirst⟩
      exact ⟨front, tail, hpage, rfl, hfirst⟩
  · rw [popupSlot_eq_error_iff, tailPlaces_eq_empty_iff]
  · rcases popupSlot_eq_ok_iff.1 h with ⟨front, tail, rfl, hslot, hfirst⟩
    rw [Slot.offset.injEq] at hslot
    rcases closesPage_iff_isTail.1 hfirst.1 with ⟨run, _, _, _, rfl, hrun, -⟩
    refine ⟨Text.onEdge_iff.2 ⟨front, _, rfl, hslot.symm⟩, front, run, _, rfl, hslot.symm, hrun, ?_⟩
    cases hlast : front.getLast? with
    | none =>
        rw [List.getLast?_eq_none_iff.1 hlast] at hslot
        exact Or.inl hslot
    | some c => exact Or.inr ⟨c, rfl, isBlank_of_firstPlace hfirst c hlast⟩

/-- Two closing tags, and wide blanks between them. Only the second one is followed by the
    rest of a tail. -/
def twoTags : Text := "é</div>\u3000\n</div>\u00a0);\n\x7d".toList

theorem popupSlot_grammar_twoTags :
    popupSlot twoTags = .ok (.offset 8) ∧ Text.OnEdge twoTags 8
    ∧ ∃ front run back, twoTags = front ++ (run ++ ("</div>".toList ++ back)) ∧ octets front = 8
      ∧ Text.IsGap run ∧ (8 = 0 ∨ ∃ c, front.getLast? = some c ∧ isBlank c = false) :=
  ⟨by decide, (popupSlot_grammar twoTags).2.2 8 (by decide)⟩

end HelpWiring
