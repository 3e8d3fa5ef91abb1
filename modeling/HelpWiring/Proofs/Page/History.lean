import HelpWiring.Proofs.Page.Guard

/-!
# The History of a Page

A page may be wired again and again, with other tags and for other fragments
each time. Nothing but the page itself remembers what was done, and that is
enough: a fragment is put in only where its guard says no, the guard says yes
afterwards, and it never goes back to no. So over any history the imports go
in once, and the hook call and the popup element once for each tag.

A history is taken apart into single steps. What holds of one step is proved
first, and the rest is induction along the steps.

## Main definitions

* `Page.addEach`: Single steps one after the other.
* `Page.wireEach`: Calls one after the other.
* `Page.stepsOf`: The single steps of some calls.
* `PutsIn`: A step that put in the fragment of a kind for a tag.

## Theorems

* `wireWith_eq_addEach`, `wireEach_eq_addEach`: Calls are made of single steps.
* `hasFragment_addEach`: A fragment that is there stays there.
* `putsIn_inversion`: A step that puts a fragment in turns its guard to yes.
* `countP_putsIn_of_hasFragment`: A fragment that is there is not put in.
* `countP_putsIn_addEach`: A fragment is put in at most once.
* `wireEach_putsIn_once`: The same for calls, and no guard goes back to no.
-/

namespace HelpWiring

/-- Whether a step, given with the tag it was made for, put in the fragment of
    a kind for a tag. The imports are the same for every tag. -/
def PutsIn (kind : Kind) (tag : Text) (entry : Text × Step) : Bool :=
  entry.2 == ⟨kind, .added⟩ && (kind == .imports || entry.1 == tag)

namespace Page

/-- The page after single steps, each given by a tag and a kind, and what
    happened at each. -/
def addEach (page : Text) : List (Text × Kind) → Text × List (Text × Step)
  | [] => (page, [])
  | (tag, kind) :: more =>
    let step := add page kind tag
    let rest := addEach step.1 more
    (rest.1, (tag, ⟨kind, step.2⟩) :: rest.2)

/-- The page after calls, each given by a tag and the wanted fragments, and
    what happened at each step of each call. -/
def wireEach (page : Text) : List (Text × Selection) → Text × List (Text × Step)
  | [] => (page, [])
  | (tag, wanted) :: more =>
    let call := wire page tag wanted
    let rest := wireEach call.content more
    (rest.1, call.steps.map (tag, ·) ++ rest.2)

theorem addEach_append (page : Text) (first more : List (Text × Kind)) :
    addEach page (first ++ more)
      = ((addEach (addEach page first).1 more).1,
        (addEach page first).2 ++ (addEach (addEach page first).1 more).2) := by
  induction first generalizing page with
  | nil => rfl
  | cons p ps ih =>
      rcases p with ⟨tag, kind⟩
      simp only [List.cons_append, addEach, ih]

theorem wireWith_eq_addEach (page tag : Text) (kinds : List Kind) :
    addEach page (kinds.map (tag, ·))
      = ((wireWith page tag kinds).content, (wireWith page tag kinds).steps.map (tag, ·)) := by
  induction kinds generalizing page with
  | nil => rfl
  | cons k ks ih => simp only [List.map_cons, addEach, ih, wireWith]

/-- The single steps of some calls. -/
def stepsOf (calls : List (Text × Selection)) : List (Text × Kind) :=
  calls.flatMap fun call => call.2.kinds.map (call.1, ·)

theorem wireEach_eq_addEach (page : Text) (calls : List (Text × Selection)) :
    wireEach page calls = addEach page (stepsOf calls) := by
  induction calls generalizing page with
  | nil => rfl
  | cons c cs ih =>
      rcases c with ⟨tag, wanted⟩
      rw [stepsOf, List.flatMap_cons, addEach_append, wireWith_eq_addEach, wireEach, ih]
      rfl

theorem hasFragment_addEach {page : Text} {kind : Kind} {tag : Text}
    (ht : kind = .imports ∨ tag.isSolid = true) (h : hasFragment page kind tag = true)
    (steps : List (Text × Kind)) :
    hasFragment (addEach page steps).1 kind tag = true := by
  induction steps generalizing page with
  | nil => exact h
  | cons p ps ih => exact ih (hasFragment_add ht h p.2 p.1)

/-- The imports are there for every tag or for none. -/
theorem hasFragment_imports (page tag tag' : Text) :
    hasFragment page .imports tag = hasFragment page .imports tag' := rfl

/-- A step that puts a fragment in turns its guard from no to yes, for good. -/
theorem putsIn_inversion {page tag tag' : Text} {kind kind' : Kind}
    (htag' : tag'.isSolid = true)
    (h : PutsIn kind tag (tag', ⟨kind', (add page kind' tag').2⟩) = true) :
    hasFragment page kind tag = false ∧ hasFragment (add page kind' tag').1 kind tag = true
      ∧ (kind = .imports ∨ tag.isSolid = true) := by
  simp only [PutsIn, Bool.and_eq_true, beq_iff_eq, Bool.or_eq_true, Step.mk.injEq] at h
  rcases h with ⟨⟨rfl, hadded⟩, htag⟩
  have hadd : add page kind' tag' = ((add page kind' tag').1, .added) := Prod.ext rfl hadded
  rcases added_inversion hadd with ⟨hno, slot, hslot, -⟩
  have hline : '\n' ∉ tag' := Text.notMem_of_isSolid htag' (by decide)
  have hyes := hasFragment_of_added hslot hadd (Or.inr (Or.inl hline))
  -- the imports may have gone in for another tag than the one asked for
  rcases htag with rfl | rfl
  · rw [hasFragment_imports _ tag tag', hasFragment_imports _ tag tag']
    exact ⟨hno, hyes, Or.inl rfl⟩
  · exact ⟨hno, hyes, Or.inr htag'⟩

theorem countP_putsIn_of_hasFragment {page tag : Text} {kind : Kind}
    (ht : kind = .imports ∨ tag.isSolid = true) (h : hasFragment page kind tag = true)
    {steps : List (Text × Kind)} (hsteps : ∀ p ∈ steps, p.1.isSolid = true) :
    (addEach page steps).2.countP (PutsIn kind tag) = 0 := by
  induction steps generalizing page with
  | nil => rfl
  | cons p ps ih =>
      rcases p with ⟨tag', kind'⟩
      have hrest := ih (hasFragment_add ht h kind' tag')
        fun q hq => hsteps q (List.mem_cons_of_mem _ hq)
      have hhead : ¬ PutsIn kind tag (tag', ⟨kind', (add page kind' tag').2⟩) = true := by
        intro hputs
        rcases putsIn_inversion (hsteps _ List.mem_cons_self) hputs with ⟨hno, -⟩
        rw [h] at hno
        exact absurd hno.symm Bool.false_ne_true
      rw [addEach, List.countP_cons_of_neg hhead]
      exact hrest

theorem countP_putsIn_addEach (page tag : Text) (kind : Kind) {steps : List (Text × Kind)}
    (hsteps : ∀ p ∈ steps, p.1.isSolid = true) :
    (addEach page steps).2.countP (PutsIn kind tag) ≤ 1 := by
  induction steps generalizing page with
  | nil => exact Nat.zero_le 1
  | cons p ps ih =>
      rcases p with ⟨tag', kind'⟩
      have hps : ∀ q ∈ ps, q.1.isSolid = true := fun q hq => hsteps q (List.mem_cons_of_mem _ hq)
      by_cases hputs : PutsIn kind tag (tag', ⟨kind', (add page kind' tag').2⟩) = true
      · -- it goes in here, so it is there for all that follows
        rcases putsIn_inversion (hsteps _ List.mem_cons_self) hputs with ⟨-, hyes, ht⟩
        have hrest := countP_putsIn_of_hasFragment ht hyes hps
        rw [addEach, List.countP_cons_of_pos hputs]
        exact Nat.succ_le_succ (Nat.le_of_eq hrest)
      · rw [addEach, List.countP_cons_of_neg hputs]
        exact ih _ hps

theorem isSolid_of_mem_stepsOf {calls : List (Text × Selection)}
    (hcalls : ∀ call ∈ calls, call.1.isSolid = true) :
    ∀ p ∈ stepsOf calls, p.1.isSolid = true := by
  intro p hp
  rcases List.mem_flatMap.1 hp with ⟨call, hcall, hp⟩
  rcases List.mem_map.1 hp with ⟨kind, -, rfl⟩
  exact hcalls call hcall

/-- Over any sequence of calls for tags without blanks, the fragment of a kind
    is put in at most once for a tag, and a fragment that the page has after
    some of the calls it has after all further ones. -/
theorem wireEach_putsIn_once (page : Text) (calls : List (Text × Selection))
    (hcalls : ∀ call ∈ calls, call.1.isSolid = true) :
    (∀ kind tag, (wireEach page calls).2.countP (PutsIn kind tag) ≤ 1)
    ∧ ∀ kind tag, (kind = .imports ∨ tag.isSolid = true) → ∀ i j, i ≤ j →
        hasFragment (wireEach page (calls.take i)).1 kind tag = true →
          hasFragment (wireEach page (calls.take j)).1 kind tag = true := by
  constructor
  · intro kind tag
    rw [wireEach_eq_addEach]
    exact countP_putsIn_addEach page tag kind (isSolid_of_mem_stepsOf hcalls)
  · intro kind tag ht i j hij h
    -- the later page comes of the earlier one by the calls between them
    rcases List.take_prefix_take_left (l := calls) hij with ⟨later, hlater⟩
    rw [wireEach_eq_addEach] at h ⊢
    rw [← hlater, stepsOf, List.flatMap_append, addEach_append]
    exact hasFragment_addEach ht h _

/-- Two tags on one page, the hook call of the first wanted twice. -/
theorem wireEach_putsIn_once_two_tags :
    let page : Text :=
      "import x\nexport function APage() \x7b\n  const [a\n</div>\n);\n\x7d".toList
    let calls : List (Text × Selection) := [("a".toList, ⟨false, true, false⟩),
      ("b".toList, Selection.all), ("a".toList, Selection.all)]
    (∀ call ∈ calls, call.1.isSolid = true)
      ∧ (wireEach page calls).2.countP (PutsIn .hook "a".toList) ≤ 1
      ∧ hasFragment (wireEach page (calls.take 1)).1 .hook "a".toList = true
      ∧ hasFragment (wireEach page (calls.take 3)).1 .hook "a".toList = true := by
  intro page calls
  have hcalls : ∀ call ∈ calls, call.1.isSolid = true := by decide
  have hfirst : hasFragment (wireEach page (calls.take 1)).1 .hook "a".toList = true := by
    decide
  have honce := wireEach_putsIn_once page calls hcalls
  exact ⟨hcalls, honce.1 _ _, hfirst,
    honce.2 _ _ (Or.inr (by decide)) 1 3 (by decide) hfirst⟩

end Page

end HelpWiring
