import HelpWiring.Proofs.Page.Anchor
import HelpWiring.Proofs.Page.Guard

/-!
# Wiring a Page Again

A step leaves its fragment settled: the page has it now, or there was no place
for it. The steps after it leave it settled, because they tear no fragment apart
and bring no anchor along. So a page that was wired has nothing left to do, and
wiring it again for the same tag changes nothing.

The steps of the second wiring are not quite those of the first. What was put
in is there now, and the imports can be there although no place was found for
them: the hook and the popup element, put in after them, name all that the guard
of the imports looks for.

## Main definitions

* `Step.Repeats`: A step of a second wiring, next to that of the first.
* `Settled`: Nothing is left to do about a fragment.

## Theorems

* `settled_add`, `Settled.add`: A step settles its fragment and unsettles none
  before it.
* `settled_wireWith`: Wiring settles every fragment.
* `wire_again_content`, `wire_again_steps`: The second wiring.
-/

namespace HelpWiring

/-- The step of a second wiring for the same fragment. Nothing goes in. What was
    put in or found is found again, and what has no place had none before. -/
structure Step.Repeats (first again : Step) : Prop where
  kind : again.kind = first.kind
  not_added : again.status ≠ .added
  present : first.status = .added ∨ first.status = .alreadyPresent →
    again.status = .alreadyPresent
  missing : ∀ reason, again.status = .anchorNotFound reason → first.status = .anchorNotFound reason

/-- A fragment that is found. -/
theorem Step.repeats_alreadyPresent (s : Step) : s.Repeats ⟨s.kind, .alreadyPresent⟩ where
  kind := rfl
  not_added := by simp only [ne_eq, reduceCtorEq, not_false_eq_true]
  present _ := rfl
  missing reason h := by simp only [reduceCtorEq] at h

/-- A fragment that had no place and has none. -/
theorem Step.repeats_anchorNotFound {s : Step} {reason : AnchorFault}
    (h : s.status = .anchorNotFound reason) : s.Repeats ⟨s.kind, .anchorNotFound reason⟩ where
  kind := rfl
  not_added := by simp only [ne_eq, reduceCtorEq, not_false_eq_true]
  present hs := by simp only [h, reduceCtorEq, or_self] at hs
  missing r hr := h.trans hr

namespace Page

/-- Nothing is left to do about the fragment of a step: the page has it, or has no
    place for it, as the step said. -/
def Settled (page tag : Text) (s : Step) : Prop :=
  hasFragment page s.kind tag = true
    ∨ ∃ reason, s.status = .anchorNotFound reason ∧ findSlot page s.kind = .error reason

variable {page tag : Text}

theorem settled_add (ht : tag.isSolid = true) (kind : Kind) :
    Settled (add page kind tag).1 tag ⟨kind, (add page kind tag).2⟩ := by
  rcases add_cases page kind tag with ⟨hhas, hadd⟩ | ⟨-, reason, hslot, hadd⟩
    | ⟨-, slot, new, hslot, -, hadd⟩
  · rw [hadd]
    exact Or.inl hhas
  · rw [hadd]
    exact Or.inr ⟨reason, rfl, hslot⟩
  · rw [hadd]
    -- a tag without blanks is on one line, so its guard sees it
    have hline : '\n' ∉ tag := Text.notMem_of_isSolid ht (by decide)
    exact Or.inl (hasFragment_of_added hslot hadd (Or.inr (Or.inl hline)))

theorem Settled.add {s : Step} (h : Settled page tag s) (ht : tag.isSolid = true) {later : Kind}
    (hlater : s.kind.before later = true) : Settled (add page later tag).1 tag s := by
  rcases h with hhas | ⟨reason, hstatus, hslot⟩
  · exact Or.inl (hasFragment_add (Or.inr ht) hhas later tag)
  · exact Or.inr ⟨reason, hstatus, findSlot_error_add ht hlater hslot⟩

theorem Settled.wireWith {s : Step} (h : Settled page tag s) (ht : tag.isSolid = true)
    {kinds : List Kind} (hlater : ∀ k ∈ kinds, s.kind.before k = true) :
    Settled (wireWith page tag kinds).content tag s := by
  induction kinds generalizing page with
  | nil => exact h
  | cons k ks ih =>
      exact ih (h.add ht (hlater k List.mem_cons_self))
        fun k' hk' => hlater k' (List.mem_cons_of_mem k hk')

/-- Wiring settles the fragment of each of its steps. -/
theorem settled_wireWith (ht : tag.isSolid = true) {kinds : List Kind}
    (horder : kinds.Pairwise fun k later => k.before later = true) :
    ∀ s ∈ (wireWith page tag kinds).steps, Settled (wireWith page tag kinds).content tag s := by
  induction kinds generalizing page with
  | nil => exact fun s hs => absurd hs List.not_mem_nil
  | cons k ks ih =>
      rw [List.pairwise_cons] at horder
      intro s hs
      rcases List.mem_cons.1 hs with rfl | hs
      · exact (settled_add ht k).wireWith ht horder.1
      · exact ih horder.2 s hs

/-- A step whose fragment is settled leaves the page as it is. -/
theorem Settled.content_add {s : Step} (h : Settled page tag s) :
    (Page.add page s.kind tag).1 = page := by
  rcases add_cases page s.kind tag with ⟨-, hadd⟩ | ⟨-, _, -, hadd⟩ | ⟨hhas, slot, -, hslot, -, -⟩
  · rw [hadd]
  · rw [hadd]
  · rcases h with h | ⟨reason, -, hnone⟩
    · rw [hhas] at h
      exact absurd h Bool.false_ne_true
    · rw [hslot] at hnone
      exact absurd hnone (by simp only [reduceCtorEq, not_false_eq_true])

/-- A step whose fragment is settled repeats the step that settled it. -/
theorem Settled.repeats {s : Step} (h : Settled page tag s) :
    s.Repeats ⟨s.kind, (Page.add page s.kind tag).2⟩ := by
  rcases Bool.eq_false_or_eq_true (hasFragment page s.kind tag) with hhas | hhas
  · rw [add_of_hasFragment hhas]
    exact s.repeats_alreadyPresent
  · rcases h with h | ⟨reason, hstatus, hnone⟩
    · rw [hhas] at h
      exact absurd h Bool.false_ne_true
    · rw [add_of_no_slot hhas hnone]
      exact Step.repeats_anchorNotFound hstatus

/-- Wiring a page on which every fragment is settled. -/
theorem wireWith_of_settled {steps : List Step} (h : ∀ s ∈ steps, Settled page tag s) :
    (wireWith page tag (steps.map Step.kind)).content = page
      ∧ List.Forall₂ Step.Repeats steps (wireWith page tag (steps.map Step.kind)).steps := by
  induction steps with
  | nil => exact ⟨rfl, List.Forall₂.nil⟩
  | cons s ss ih =>
      have hs : Settled page tag s := h s List.mem_cons_self
      rcases ih fun t ht => h t (List.mem_cons_of_mem s ht) with ⟨hcontent, hsteps⟩
      rw [List.map_cons, Page.wireWith]
      simp only [hs.content_add]
      exact ⟨hcontent, List.Forall₂.cons hs.repeats hsteps⟩

theorem pairwise_kinds (wanted : Selection) :
    wanted.kinds.Pairwise fun k later => k.before later = true :=
  List.Pairwise.filter wanted.has (by decide)

theorem settled_wire (page : Text) (ht : tag.isSolid = true) (wanted : Selection) :
    ∀ s ∈ (wire page tag wanted).steps, Settled (wire page tag wanted).content tag s :=
  settled_wireWith ht (pairwise_kinds wanted)

/-- Wiring a page a second time changes nothing. -/
theorem wire_again_content (page : Text) (ht : tag.isSolid = true) (wanted : Selection) :
    (wire (wire page tag wanted).content tag wanted).content = (wire page tag wanted).content := by
  have h := (wireWith_of_settled (settled_wire page ht wanted)).1
  rwa [steps_wire] at h

theorem wire_again_steps (page : Text) (ht : tag.isSolid = true) (wanted : Selection) :
    List.Forall₂ Step.Repeats (wire page tag wanted).steps
      (wire (wire page tag wanted).content tag wanted).steps := by
  have h := (wireWith_of_settled (settled_wire page ht wanted)).2
  rwa [steps_wire] at h

end Page

end HelpWiring
