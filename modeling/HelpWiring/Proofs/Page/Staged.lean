import HelpWiring.Proofs.Page.Apart
import HelpWiring.Proofs.Page.HookAlone
import HelpWiring.Proofs.Page.Order

/-!
# Wiring in Stages

A page can be wired for some fragments first and for all of them later. If the
fragments come in the order in which they are applied, that ends where one run
for all of them ends. Otherwise a fragment of the first run can be in the way of
one that was left out.

There are three ways in which it can. A hook call names what the guard of the
imports looks for, and so does a popup element whose tag names the hook. And the
popup element can part the first import line, so that it is none any more, or
change which line is the hook site. `wire_in_stages_iff` says that there are no
others.

For the one direction the popup element is moved to the end. It goes in before
the imports or the hook call, or after them, and it is all the same to both. Then
the fragments come in their order, and what is put in twice counts once. For the
other direction the imports are followed through both runs: they are in the page
in the end, so the second run must have put them in. And from the two texts it
can be told that the popup element was in the way of none.

A page that names the hook, and the popup only inside that name, is left open
here: the guard asks for both names, and finds the one in the other.

## Main definitions

* `Page.Missed`: A fragment that the first run leaves out and a full run adds.
* `Page.InTurn`: Nothing is in the way of the fragments that were missed.

## Theorems

* `put_hook_beforePopup`: Imports and hook call, in stages.
* `wire_in_stages`: Two stages end where a full run ends.
* `inTurn_of_same`: If they do, nothing was in the way.
* `wire_in_stages_of_initial`: The first fragments in their order.
* `wire_in_stages_iff`: When two stages end where a full run ends.
-/

namespace HelpWiring

namespace Page

/-- A fragment that the first run leaves out, and a full run puts in. -/
def Missed (page tag : Text) (first : Selection) (kind : Kind) : Prop :=
  first.has kind = false ∧ ⟨kind, .added⟩ ∈ (wire page tag .all).steps

/-- Nothing that the first run puts in is in the way of the fragments that it leaves out. -/
structure InTurn (page tag : Text) (first : Selection) : Prop where
  /-- The page is not taken for one with imports: it does not name both the hook and the popup. -/
  unnamed : Missed page tag first .imports →
    ¬ (hookName <:+: (wire page tag first).content
      ∧ ¬ PopupUnnamed (wire page tag first).content)
  /-- The popup element does not part the line that the imports go under. -/
  whole : Missed page tag first .imports → ⟨.component, .added⟩ ∈ (wire page tag first).steps →
    ImportWhole page
  /-- Nor does it change which line the hook call goes in front of. -/
  stays : Missed page tag first .hook → ⟨.component, .added⟩ ∈ (wire page tag first).steps →
    SiteStays (put page tag .imports)

section

variable {page tag : Text} {first : Selection}

theorem Missed.add_imports (h : Missed page tag first .imports) :
    (add page .imports tag).2 = .added :=
  ((imports_step_iff page tag .all _).1 h.2).2

theorem Missed.add_hook (h : Missed page tag first .hook) :
    (add (put page tag .imports) .hook tag).2 = .added := by
  have hs := h.2
  rw [steps_wire_all] at hs
  simp only [List.mem_cons, Step.mk.injEq, reduceCtorEq, false_and, true_and, false_or, or_false,
    List.not_mem_nil] at hs
  exact hs.symm

theorem not_hookName_infix_of_added (h : (add page .imports tag).2 = .added) :
    ¬ hookName <:+: page :=
  hasFragment_eq_false_iff.1 (added_inversion (Prod.ext rfl h)).1 hookName List.mem_cons_self

/-- A wired page names the hook if what was put in does. -/
theorem hookName_infix_wire {kind : Kind} (hs : ⟨kind, .added⟩ ∈ (wire page tag first).steps)
    (h : hookName <:+: kind.text tag) : hookName <:+: (wire page tag first).content := by
  have hwhole : Whole hookName := whole_of_isSolid (by decide) (by decide)
  exact (hwhole.infix_wireWith_iff page tag first.kinds).2 (Or.inr ⟨kind, hs, h⟩)

theorem hookName_infix_hookLine (tag : Text) : hookName <:+: hookLine tag := by
  have hcall : hookName <:+: hookCall '\'' tag := by
    rw [hookCall_eq]
    exact List.infix_append_of_infix_left (Text.mentions_iff.1 (by decide))
  exact hcall.trans (hookCall_infix_hookLine tag)

theorem hookName_infix_popupElement (h : hookName <:+: tag) : hookName <:+: popupElement tag := by
  rcases hasFragment_iff.1 ((hasFragment_imports_popupElement_iff tag).2 h) with ⟨_, hsign, hinfix⟩
  rwa [List.mem_singleton.1 hsign] at hinfix

/-- The imports and the hook call of a full run come out the same, whichever of them went in
    before, unless the hook call was taken for the imports. -/
theorem put_hook_beforePopup (ht : tag.isSolid = true)
    (hhook : Missed page tag first .imports → ⟨.hook, .added⟩ ∉ (wire page tag first).steps) :
    put (put (wire page tag (beforePopup first)).content tag .imports) tag .hook
      = put (put page tag .imports) tag .hook := by
  rcases first with ⟨imports, hook, component⟩
  cases imports with
  | true =>
      cases hook with
      | false =>
          have hfirst : (wire page tag ⟨true, false, false⟩).content = put page tag .imports := rfl
          rw [beforePopup, hfirst, put_put ht]
      | true =>
          have hfirst : (wire page tag ⟨true, true, false⟩).content
              = put (put page tag .imports) tag .hook := rfl
          have himports : put (put (put page tag .imports) tag .hook) tag .imports
              = put (put page tag .imports) tag .hook :=
            ((settled_add ht .imports).add ht (by rfl)).content_add
          rw [beforePopup, hfirst, himports, put_put ht]
  | false =>
      cases hook with
      | false => rfl
      | true =>
          have hfirst : (wire page tag ⟨false, true, false⟩).content = put page tag .hook := rfl
          rw [beforePopup, hfirst]
          by_cases hadded : (add page .imports tag).2 = .added
          · -- then the hook call was not added, and nothing came before
            have hsteps : ⟨.hook, (add page .hook tag).2⟩
                ∈ (wire page tag ⟨false, true, component⟩).steps := by
              cases component <;> exact List.mem_cons_self
            have hno : (add page .hook tag).2 ≠ .added := fun hyes =>
              hhook ⟨rfl, hadded ▸ List.mem_cons_self⟩ (hyes ▸ hsteps)
            rw [put_of_not_added hno]
          · -- the imports do not go in, before the hook call or after it
            have himports : put (put page tag .hook) tag .imports = put page tag .hook :=
              ((settled_of_not_added ht hadded).add ht (by rfl)).content_add
            rw [himports, put_of_not_added hadded, put_put ht]

/-- If the imports were missed and the hook call was not added, nothing came before the popup
    element. -/
theorem Missed.content_beforePopup (h : Missed page tag first .imports)
    (hhook : ⟨.hook, .added⟩ ∉ (wire page tag first).steps) :
    (wire page tag (beforePopup first)).content = page := by
  rcases first with ⟨imports, hook, component⟩
  obtain rfl : imports = false := h.1
  cases hook with
  | false => rfl
  | true =>
      refine put_of_not_added fun hyes => hhook ?_
      rw [← hyes]
      cases component <;> exact List.mem_cons_self

/-- If the imports are still to be added when the popup element comes, they were missed. -/
theorem missed_imports (ht : tag.isSolid = true)
    (hadded : (add (wire page tag (beforePopup first)).content .imports tag).2 = .added) :
    Missed page tag first .imports := by
  rcases first with ⟨imports, hook, component⟩
  cases imports with
  | true =>
      have hwanted : (beforePopup ⟨true, hook, component⟩).has .imports = true := rfl
      rcases exists_settled page ht _ hwanted with ⟨status, hsettled⟩
      exact absurd hadded hsettled.repeats.not_added
  | false =>
      refine ⟨rfl, (imports_step_iff page tag .all _).2 ⟨rfl, ?_⟩⟩
      cases hook with
      | false => exact hadded
      | true =>
          -- the hook call cannot have brought an anchor for the imports
          by_contra hno
          have hsettled : Settled (put page tag .hook) tag ⟨.imports, (add page .imports tag).2⟩ :=
            (settled_of_not_added ht hno).add ht (by rfl)
          exact hsettled.repeats.not_added hadded

/-- Without the hook call, the imports are all that comes before the popup element. -/
theorem put_imports_beforePopup (ht : tag.isSolid = true) (hhook : first.hook = false) :
    put (wire page tag (beforePopup first)).content tag .imports = put page tag .imports := by
  rcases first with ⟨imports, hook, component⟩
  obtain rfl : hook = false := hhook
  cases imports with
  | false => rfl
  | true => exact put_put ht page .imports

/-- The imports and the popup element, if nothing is in the way of the imports. -/
theorem put_imports_past (ht : tag.isSolid = true)
    (hunnamed : Missed page tag first .imports → ¬ hookName <:+: (wire page tag first).content)
    (hwhole : Missed page tag first .imports → ImportWhole page)
    (hpopup : ⟨.component, .added⟩ ∈ (wire page tag first).steps) :
    put (put (wire page tag (beforePopup first)).content tag .component) tag .imports
      = put (put (wire page tag (beforePopup first)).content tag .imports) tag .component := by
  by_cases hadded : (add (wire page tag (beforePopup first)).content .imports tag).2 = .added
  · have hmissed := missed_imports ht hadded
    have hsame : (wire page tag (beforePopup first)).content = page :=
      hmissed.content_beforePopup fun hs =>
        hunnamed hmissed (hookName_infix_wire hs (hookName_infix_hookLine tag))
    have hadded' := ((component_added_iff page tag first).1 hpopup).2
    rw [hsame] at hadded hadded' ⊢
    exact put_imports_popup ht hadded' hadded
      (fun h => hunnamed hmissed (hookName_infix_wire hpopup (hookName_infix_popupElement h)))
      (hwhole hmissed)
  · -- there is no place for the imports, before the element or after it
    rw [put_of_not_added hadded]
    exact ((settled_of_not_added ht hadded).add ht (by rfl)).content_add

/-- With the imports before it, the popup element still goes in. -/
theorem component_added_imports (ht : tag.isSolid = true) {text : Text}
    (h : (add text .component tag).2 = .added)
    (hsame : put (put text tag .component) tag .imports
      = put (put text tag .imports) tag .component) :
    (add (put text tag .imports) .component tag).2 = .added := by
  rcases (added_iff ht).1 h with ⟨hno, hhas⟩
  rw [added_iff ht, ← hsame, hasFragment_put_of_ne ht _ _ (by decide) (by decide)]
  exact ⟨hno, hasFragment_add (Or.inr ht) hhas .imports tag⟩

/-- The same for the hook call. -/
theorem missed_hook (ht : tag.isSolid = true)
    (hadded : (add (put (wire page tag (beforePopup first)).content tag .imports) .hook tag).2
      = .added) : Missed page tag first .hook := by
  cases hhook : first.hook with
  | true =>
      have hwanted : (beforePopup first).has .hook = true := hhook
      rcases exists_settled page ht _ hwanted with ⟨status, hsettled⟩
      exact absurd hadded (hsettled.put_imports ht).repeats.not_added
  | false =>
      -- a full run comes to the hook call with the same text
      rw [put_imports_beforePopup ht hhook] at hadded
      refine ⟨hhook, ?_⟩
      rw [steps_wire_all, hadded]
      exact List.mem_cons_of_mem _ List.mem_cons_self

theorem content_wire_all (text tag : Text) : (wire text tag .all).content
    = put (put (put text tag .imports) tag .hook) tag .component := rfl

/-- Wiring a page for some fragments and then for all ends where wiring it for all at once
    ends, if nothing gets in the way of those that were missed. -/
theorem wire_in_stages (ht : tag.isSolid = true)
    (hunnamed : Missed page tag first .imports → ¬ hookName <:+: (wire page tag first).content)
    (h : InTurn page tag first) :
    (wire (wire page tag first).content tag .all).content = (wire page tag .all).content := by
  have hfront : put (put (wire page tag (beforePopup first)).content tag .imports) tag .hook
      = put (put page tag .imports) tag .hook :=
    put_hook_beforePopup ht fun hmissed hs =>
      hunnamed hmissed (hookName_infix_wire hs (hookName_infix_hookLine tag))
  rw [content_wire_all, content_wire_all page, ← hfront]
  cases hcomponent : first.component with
  | false =>
      have hsame : beforePopup first = first := by
        rw [beforePopup, ← hcomponent]
      rw [hsame]
  | true =>
      rw [(wire_component page tag hcomponent).1]
      by_cases hadded : (add (wire page tag (beforePopup first)).content .component tag).2 = .added
      · -- the element is moved behind the imports, and then behind the hook call
        have hpopup := (component_added_iff page tag first).2 ⟨hcomponent, hadded⟩
        have himports := put_imports_past ht hunnamed (fun hm => h.whole hm hpopup) hpopup
        have hadded' := component_added_imports ht hadded himports
        have hhook : put (put (put (wire page tag (beforePopup first)).content tag .imports) tag
              .component) tag .hook
            = put (put (put (wire page tag (beforePopup first)).content tag .imports) tag .hook) tag
              .component := by
          by_cases hcall : (add (put (wire page tag (beforePopup first)).content tag .imports) .hook
            tag).2 = .added
          · have hmissed := missed_hook ht hcall
            rw [put_imports_beforePopup ht hmissed.1] at hadded' hcall ⊢
            exact put_hook_popup ht hadded' hcall (h.stays hmissed hpopup)
          · rw [put_of_not_added hcall]
            exact ((settled_of_not_added ht hcall).add ht (by rfl)).content_add
        rw [himports, hhook, put_put ht]
      · rw [put_of_not_added hadded]

/-- If two stages end where a full run ends, the second one adds the imports that the first one
    missed. -/
theorem Missed.add_imports_again (h : Missed page tag first .imports) (ht : tag.isSolid = true)
    (hsame : (wire (wire page tag first).content tag .all).content = (wire page tag .all).content) :
    (add (wire page tag first).content .imports tag).2 = .added := by
  have himp := importLike_hookImport
  have hwire := fun text wanted =>
    infix_wireWith_iff himp (by decide) text tag (Selection.kinds wanted)
  have hname : hookName <:+: hookImport := Text.mentions_iff.1 (by decide)
  have himports : hookImport <:+: importLines := Text.mentions_iff.1 (by decide)
  -- the page has the import of the hook in the end, and it came in with the imports
  have hthere : hookImport <:+: (wire page tag .all).content :=
    (hwire page .all).2 (Or.inr ⟨.imports, h.2, himports⟩)
  rw [← hsame] at hthere
  rcases (hwire _ .all).1 hthere with hfirst | ⟨kind, hs, htext⟩
  · exfalso
    rcases (hwire page first).1 hfirst with hpage | ⟨kind, hs, htext⟩
    · exact not_hookName_infix_of_added h.add_imports (hname.trans hpage)
    · obtain rfl : kind = .imports := himp.eq_imports ht htext
      exact Bool.false_ne_true (h.1.symm.trans (has_of_mem_steps hs))
  · obtain rfl : kind = .imports := himp.eq_imports ht htext
    exact ((imports_step_iff _ tag .all _).1 hs).2

/-- The popup element of the first run is there when the second one comes to it. -/
theorem popup_of_same (ht : tag.isSolid = true)
    (hsame : (wire (wire page tag first).content tag .all).content = (wire page tag .all).content)
    (hpopup : ⟨.component, .added⟩ ∈ (wire page tag first).steps) :
    (wire page tag first).content = put (wire page tag (beforePopup first)).content tag .component
      ∧ (add (wire page tag (beforePopup first)).content .component tag).2 = .added
      ∧ put (put (wire page tag first).content tag .imports) tag .hook
        = put (put (put page tag .imports) tag .hook) tag .component := by
  rcases (component_added_iff page tag first).1 hpopup with ⟨hwanted, hadded⟩
  have hcontent := (wire_component page tag hwanted).1
  have hfirst := ((added_iff ht).1 hadded).2
  rw [← hcontent] at hfirst
  have himports := hasFragment_add (Or.inr ht) hfirst .imports tag
  have hthere := hasFragment_add (Or.inr ht) himports .hook tag
  rw [content_wire_all, content_wire_all page] at hsame
  exact ⟨hcontent, hadded, by rw [← hsame, put_of_hasFragment hthere]⟩

/-- If two stages end where a full run ends, nothing was in the way. -/
theorem inTurn_of_same (ht : tag.isSolid = true)
    (hsame : (wire (wire page tag first).content tag .all).content = (wire page tag .all).content) :
    InTurn page tag first := by
  have hunnamed : Missed page tag first .imports → ¬ hookName <:+: (wire page tag first).content :=
    fun hmissed => not_hookName_infix_of_added (hmissed.add_imports_again ht hsame)
  have hwhole : Missed page tag first .imports →
      ⟨.component, .added⟩ ∈ (wire page tag first).steps → ImportWhole page := by
    intro hmissed hpopup
    have hagain := hmissed.add_imports_again ht hsame
    rcases popup_of_same ht hsame hpopup with ⟨hcontent, hadded, hend⟩
    have hpage := hmissed.content_beforePopup fun hs =>
      hunnamed hmissed (hookName_infix_wire hs (hookName_infix_hookLine tag))
    rw [hpage] at hcontent hadded
    rw [hcontent] at hagain hend
    rcases exists_apart ht hadded hend with ⟨a, b, hwith, hwithout⟩
    exact importWhole_of_apart ht hadded hmissed.add_imports hagain hwith hwithout
  refine ⟨fun hmissed h => hunnamed hmissed h.1, hwhole, fun hmissed hpopup => ?_⟩
  rcases popup_of_same ht hsame hpopup with ⟨hcontent, hadded, hend⟩
  have himports := put_imports_past ht hunnamed (fun hm => hwhole hm hpopup) hpopup
  have hadded' := component_added_imports ht hadded himports
  rw [hcontent, himports, put_imports_beforePopup ht hmissed.1] at hend
  rw [put_imports_beforePopup ht hmissed.1] at hadded'
  exact siteStays_of_comm ht hadded' hmissed.add_hook hend

/-- A first run that takes the fragments in their order ends on the way of a full run. -/
theorem wire_in_stages_of_initial (page : Text) (ht : tag.isSolid = true)
    (h : ∀ kind later, first.has later = true → kind.before later = true → first.has kind = true) :
    (wire (wire page tag first).content tag .all).content = (wire page tag .all).content := by
  have hnone : ∀ {kind later status}, Missed page tag first kind → kind.before later = true →
      ⟨later, status⟩ ∉ (wire page tag first).steps := by
    intro kind later status hmissed hbefore hs
    have hhas := h kind later (has_of_mem_steps hs) hbefore
    rw [hmissed.1] at hhas
    exact Bool.false_ne_true hhas
  have hunnamed : Missed page tag first .imports →
      ¬ hookName <:+: (wire page tag first).content := by
    intro hmissed
    rcases first with ⟨imports, hook, component⟩
    obtain rfl : imports = false := hmissed.1
    obtain rfl : hook = false := Bool.eq_false_iff.2 fun hyes =>
      Bool.false_ne_true (h .imports .hook hyes rfl)
    obtain rfl : component = false := Bool.eq_false_iff.2 fun hyes =>
      Bool.false_ne_true (h .imports .component hyes rfl)
    exact not_hookName_infix_of_added hmissed.add_imports
  refine wire_in_stages ht hunnamed ⟨fun hmissed h => hunnamed hmissed h.1, ?_, ?_⟩
  · exact fun hmissed hs => absurd hs (hnone hmissed rfl)
  · exact fun hmissed hs => absurd hs (hnone hmissed rfl)

end

example : InTurn helperPage "home".toList (.ofKinds [.imports, .component]) :=
  inTurn_of_same (by decide) (by decide +kernel)

end Page

end HelpWiring
