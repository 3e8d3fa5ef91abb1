import HelpWiring.Proofs.Page.Insertion
import HelpWiring.Proofs.Text.Rows
import Mathlib.Algebra.GroupWithZero.Nat

/-!
# A Page Only Grows

Wiring never rewrites a page. Each step that reports its fragment as added has
put one block between two parts of the text that it found, and each other step
has left the text alone. The block is the fragment as its slot asks for it:
every line behind the spaces of the slot, and a line feed more where it went
between lines.

So the page is still there, character by character and in its order, with
other characters in between, and it has grown by the octets of the blocks.

No block is empty, so a row of steps leaves a page as it was only if none of
them added a fragment. What later steps put in cannot make up for it.

## Main definitions

* `Page.Grows`: A row of steps and the blocks that they put in.

## Theorems

* `grows_wireWith`: Wiring is such a row, whatever the kinds and their order.
* `Grows.octets`: How much longer a page gets.
* `Grows.sublist`: What was in a page stays, in its order.
* `Grows.final_eq_iff`, `changed_wire_iff`: When the text is another one.
* `wire_only_inserts`: All of this for the wanted fragments.
-/

namespace HelpWiring

theorem Kind.text_ne_nil (kind : Kind) (tag : Text) : kind.text tag ≠ [] := by
  cases kind with
  | imports => exact List.append_ne_nil_of_left_ne_nil (List.cons_ne_nil _ _) _
  | hook => exact List.append_ne_nil_of_right_ne_nil _ (List.cons_ne_nil _ _)
  | component => exact List.append_ne_nil_of_right_ne_nil _ (List.cons_ne_nil _ _)

theorem Slot.Block.ne_nil {slot : Slot} {fragment block : Text} (h : slot.Block fragment block)
    (hfragment : fragment ≠ []) : block ≠ [] := by
  cases slot with
  | line index indent =>
      rcases h with rfl | rfl
      · exact List.append_ne_nil_of_right_ne_nil _ (List.cons_ne_nil _ _)
      · exact List.cons_ne_nil _ _
  | offset octets =>
      -- inside a line the block is the fragment itself
      have hblock : block = (offset octets).body fragment := h
      rwa [hblock, Slot.body_of_unindented rfl]

namespace Page

/-- From one text to another by some steps. The steps that report `added` put in the
    blocks, one each and in this order, and the others leave the text as it is. -/
inductive Grows (tag : Text) : Text → List Step → List Text → Text → Prop
  | done (page : Text) : Grows tag page [] [] page
  /-- The fragment is there, or has no place. -/
  | passed {page final : Text} {kind : Kind} {status : Status} {steps : List Step}
      {blocks : List Text} (hstep : add page kind tag = (page, status)) (hstatus : status ≠ .added)
      (rest : Grows tag page steps blocks final) :
      Grows tag page (⟨kind, status⟩ :: steps) blocks final
  /-- The fragment comes between two parts of the page, as the slot asks for it. -/
  | put {a b block final : Text} {kind : Kind} {slot : Slot} {steps : List Step}
      {blocks : List Text} (hslot : findSlot (a ++ b) kind = .ok slot)
      (hblock : slot.Block (kind.text tag) block)
      (hstep : add (a ++ b) kind tag = (a ++ (block ++ b), .added))
      (rest : Grows tag (a ++ (block ++ b)) steps blocks final) :
      Grows tag (a ++ b) (⟨kind, .added⟩ :: steps) (block :: blocks) final

variable {tag : Text}

/-- A step puts one block in, or none. -/
theorem Grows.step (page : Text) (kind : Kind) {steps : List Step} {blocks : List Text}
    {final : Text} (rest : Grows tag (add page kind tag).1 steps blocks final) :
    ∃ more, Grows tag page (⟨kind, (add page kind tag).2⟩ :: steps) (more ++ blocks) final := by
  -- the fragment is there, has no place, or goes in
  rcases add_cases page kind tag with ⟨-, hadd⟩ | ⟨-, reason, -, hadd⟩
    | ⟨-, slot, new, hslot, hnew, hadd⟩
  · rw [hadd] at rest ⊢
    exact ⟨[], .passed hadd (by simp only [ne_eq, reduceCtorEq, not_false_eq_true]) rest⟩
  · rw [hadd] at rest ⊢
    exact ⟨[], .passed hadd (by simp only [ne_eq, reduceCtorEq, not_false_eq_true]) rest⟩
  · rcases inserted_of_findSlot hslot hnew with ⟨block, ⟨a, b, rfl, rfl, -⟩, hblock⟩
    rw [hadd] at rest ⊢
    exact ⟨[block], .put hslot hblock hadd rest⟩

theorem grows_wireWith (page tag : Text) (kinds : List Kind) :
    ∃ blocks, Grows tag page (wireWith page tag kinds).steps blocks
      (wireWith page tag kinds).content := by
  -- the rest of the kinds starts from the text that the first one leaves
  induction kinds generalizing page with
  | nil => exact ⟨[], .done page⟩
  | cons kind more ih =>
      rcases ih (add page kind tag).1 with ⟨blocks, hrest⟩
      rcases hrest.step page kind with ⟨own, hgrows⟩
      exact ⟨own ++ blocks, hgrows⟩

section

variable {page final : Text} {steps : List Step} {blocks : List Text}

/-- There is one block for each step that added its fragment. -/
theorem Grows.length_blocks (h : Grows tag page steps blocks final) :
    blocks.length = steps.countP fun s => s.status == .added := by
  induction h with
  | done page => rfl
  | passed hstep hstatus rest ih =>
      rw [List.countP_cons_of_neg (by rw [beq_iff_eq]; exact hstatus), ih]
  | put hslot hblock hstep rest ih =>
      rw [List.countP_cons_of_pos (by exact beq_self_eq_true _), List.length_cons, ih]

theorem Grows.octets (h : Grows tag page steps blocks final) :
    HelpWiring.octets final = HelpWiring.octets page + (blocks.map HelpWiring.octets).sum := by
  induction h with
  | done page => rfl
  | passed hstep hstatus rest ih => exact ih
  | put hslot hblock hstep rest ih =>
      rw [ih, octets_append, octets_append, octets_append, List.map_cons, List.sum_cons]
      omega

theorem Grows.sublist (h : Grows tag page steps blocks final) : page.Sublist final := by
  induction h with
  | done page => exact List.Sublist.refl page
  | passed hstep hstatus rest ih => exact ih
  | put hslot hblock hstep rest ih =>
      exact (List.Sublist.append_left (List.sublist_append_right _ _) _).trans ih

theorem Grows.ne_nil_of_mem (h : Grows tag page steps blocks final) :
    ∀ block ∈ blocks, block ≠ [] := by
  induction h with
  | done page => exact fun _ hblock => absurd hblock List.not_mem_nil
  | passed hstep hstatus rest ih => exact ih
  | @put a b block final kind slot steps blocks hslot hblock hstep rest ih =>
      exact List.forall_mem_cons.2 ⟨hblock.ne_nil (kind.text_ne_nil tag), ih⟩

theorem Grows.final_eq_iff (h : Grows tag page steps blocks final) :
    final = page ↔ blocks = [] := by
  constructor
  · intro heq
    have hoctets := h.octets
    have hne := h.ne_nil_of_mem
    cases blocks with
    | nil => rfl
    | cons block more =>
        -- the text would be longer by this block at least
        rw [heq, List.map_cons, List.sum_cons] at hoctets
        exact absurd (eq_nil_of_octets (by omega)) (hne block List.mem_cons_self)
  · intro hblocks
    induction h with
    | done page => rfl
    | passed hstep hstatus rest ih => exact ih hblocks
    | put hslot hblock hstep rest ih => exact absurd hblocks (List.cons_ne_nil _ _)

end

/-- Wiring reports a change exactly if it makes one. -/
theorem changed_wire_iff (page tag : Text) (wanted : Selection) :
    (wire page tag wanted).changed = true ↔ (wire page tag wanted).content ≠ page := by
  rcases grows_wireWith page tag wanted.kinds with ⟨blocks, h⟩
  have hcount : (wire page tag wanted).changed = true ↔ 0 < blocks.length := by
    rw [h.length_blocks, List.countP_pos_iff]
    exact List.any_eq_true
  rw [hcount, List.length_pos_iff, ne_eq, ne_eq]
  exact not_congr h.final_eq_iff.symm

/-- Wiring puts blocks into a page, one for each fragment that it adds, and changes
    nothing else. -/
theorem wire_only_inserts (page tag : Text) (wanted : Selection) :
    ∃ blocks, Grows tag page (wire page tag wanted).steps blocks (wire page tag wanted).content
      ∧ blocks.length = (wire page tag wanted).steps.countP (fun s => s.status == .added)
      ∧ octets (wire page tag wanted).content = octets page + (blocks.map octets).sum
      ∧ page.Sublist (wire page tag wanted).content := by
  rcases grows_wireWith page tag wanted.kinds with ⟨blocks, h⟩
  exact ⟨blocks, h, h.length_blocks, h.octets, h.sublist⟩

end Page

end HelpWiring
