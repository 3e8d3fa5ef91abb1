import HelpWiring.Page.Splice

/-!
# Wiring a Page

A fragment is put into a page in three steps: if the page has it nothing
happens, if there is no slot for it nothing happens, and otherwise it is
spliced in at its slot. Wiring a page does this for each wanted fragment in
turn, each on the page that the one before it left. A missing slot does not
stop the fragments after it.

`Page.add` needs no case for a splice that is refused: a slot that was found is
always on the edge of a character, and the definition carries the proof.

## Main definitions

* `Status`: What happened to a fragment.
* `Page.add`: One fragment.
* `Page.wire`: All wanted fragments.
* `Wired.changed`: Whether any fragment went in.

## Theorems

* `add_of_hasFragment`, `add_of_no_slot`, `add_of_slot`: The three cases of a
  step.
* `steps_wire`: There is one step for each wanted fragment, in order.
-/

namespace HelpWiring

/-- What happened to a fragment. -/
inductive Status
  /-- It was put in. -/
  | added
  /-- It was there. -/
  | alreadyPresent
  /-- It has no slot in the page. -/
  | anchorNotFound (reason : AnchorFault)
  deriving DecidableEq

namespace Status

/-- The status in words. -/
def message : Status → Text
  | added => "added".toList
  | alreadyPresent => "already present".toList
  | anchorNotFound reason => reason.message

end Status

/-- One fragment and what happened to it. -/
structure Step where
  kind : Kind
  status : Status
  deriving DecidableEq

/-- A page after its wiring, and what happened on the way. -/
structure Wired where
  content : Text
  steps : List Step
  deriving DecidableEq

/-- Whether any fragment went in. -/
def Wired.changed (w : Wired) : Bool := w.steps.any fun s => s.status == .added

namespace Page

/-- Puts one fragment into a page. -/
def add (page : Text) (kind : Kind) (tag : Text) : Text × Status :=
  if hasFragment page kind tag then (page, .alreadyPresent)
  else match h : findSlot page kind with
    | .ok slot => ((splice? page slot (kind.text tag)).get (splice_isSome_of_findSlot h _), .added)
    | .error reason => (page, .anchorNotFound reason)

theorem add_of_hasFragment {page : Text} {kind : Kind} {tag : Text}
    (h : hasFragment page kind tag = true) : add page kind tag = (page, .alreadyPresent) := by
  rw [add, if_pos h]

theorem add_of_no_slot {page : Text} {kind : Kind} {tag : Text} {reason : AnchorFault}
    (h : hasFragment page kind tag = false) (hs : findSlot page kind = .error reason) :
    add page kind tag = (page, .anchorNotFound reason) := by
  rw [add, if_neg (by rw [h]; decide)]
  split
  · rename_i slot hp
    rw [hs] at hp
    simp only [reduceCtorEq] at hp
  · rename_i r hr
    rw [hs, Except.error.injEq] at hr
    rw [hr]

theorem add_of_slot {page new : Text} {kind : Kind} {tag : Text} {slot : Slot}
    (h : hasFragment page kind tag = false) (hs : findSlot page kind = .ok slot)
    (hnew : splice? page slot (kind.text tag) = some new) :
    add page kind tag = (new, .added) := by
  rw [add, if_neg (by rw [h]; decide)]
  split
  · rename_i p hp
    rw [hs, Except.ok.injEq] at hp
    subst hp
    simp only [hnew, Option.get_some]
  · rename_i r hr
    rw [hs] at hr
    simp only [reduceCtorEq] at hr

/-- Puts fragments into a page one after the other. -/
def wireWith (page tag : Text) : List Kind → Wired
  | [] => ⟨page, []⟩
  | kind :: more =>
    let step := add page kind tag
    let rest := wireWith step.1 tag more
    ⟨rest.content, ⟨kind, step.2⟩ :: rest.steps⟩

/-- Puts the wanted fragments into a page. -/
def wire (page tag : Text) (wanted : Selection) : Wired := wireWith page tag wanted.kinds

theorem steps_wireWith (page tag : Text) (kinds : List Kind) :
    (wireWith page tag kinds).steps.map Step.kind = kinds := by
  induction kinds generalizing page with
  | nil => rfl
  | cons k ks ih => simp only [wireWith, List.map_cons, ih]

theorem steps_wire (page tag : Text) (wanted : Selection) :
    (wire page tag wanted).steps.map Step.kind = wanted.kinds :=
  steps_wireWith page tag wanted.kinds

end Page

end HelpWiring
