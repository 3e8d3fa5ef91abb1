import HelpWiring.Catalog.Basic
import HelpWiring.Proofs.Page.Guard

/-!
# Where Guard and Step Agree

A step should put in what its guard looks for, or it would put it in again the
next time. The guard looks for the tag as it is written. New lines are
indented one by one, and a tag may hold line feeds: then the spaces that are
put behind each of them part the page from what the guard looks for.

`hasFragment_of_added_iff` says exactly when that can happen: for the hook
call, a tag of more than one line, and a slot that asks for spaces. For every
such tag and every number of spaces there is a page where it does, `lonePage`,
and nowhere else does it happen at all.

The argument on that page counts line feeds. The guard's text and the new lines
have the same number, so one would have to begin in the first line of the
other, and behind the first line feed they start with different numbers of
spaces.

## Main definitions

* `leadingSpaces`: How many spaces a text starts with.
* `lonePage`: A page whose only line asks for some spaces.

## Theorems

* `leadingSpaces_indented`: Indentation shows in front of the first line.
* `count_indented`: Indentation leaves the line feeds alone.
* `not_infix_indented`: Indented lines do not hold a call over several lines.
* `add_lonePage`: The hook call goes in front of the only line.
* `not_hasFragment_added`: Its guard does not see it there.
* `hasFragment_of_added_iff`: When guard and step agree.
* `added_twice`: A page where they do not.
-/

namespace HelpWiring

/-- How many spaces a text starts with. -/
def leadingSpaces (t : Text) : Nat := (t.takeWhile (· == ' ')).length

theorem leadingSpaces_cons_space (t : Text) : leadingSpaces (' ' :: t) = leadingSpaces t + 1 :=
  rfl

theorem leadingSpaces_cons_other {c : Char} (h : c ≠ ' ') (t : Text) :
    leadingSpaces (c :: t) = 0 := by
  rw [leadingSpaces, List.takeWhile_cons_of_neg (by simp only [beq_iff_eq, h, not_false_eq_true])]
  rfl

theorem leadingSpaces_append_cons {c : Char} (h : c ≠ ' ') (t s : Text) :
    leadingSpaces (t ++ c :: s) = leadingSpaces t := by
  induction t with
  | nil => exact leadingSpaces_cons_other h s
  | cons d r ih =>
      by_cases hd : d = ' '
      · subst hd
        rw [List.cons_append, leadingSpaces_cons_space, leadingSpaces_cons_space, ih]
      · rw [List.cons_append, leadingSpaces_cons_other hd, leadingSpaces_cons_other hd]

theorem indented_succ (n : Nat) (t : Text) : indented (n + 1) t = ' ' :: indented n t := rfl

theorem leadingSpaces_indented (n : Nat) (t : Text) :
    leadingSpaces (indented n t) = n + leadingSpaces t := by
  induction n with
  | zero => exact (Nat.zero_add _).symm
  | succ m ih =>
      rw [indented_succ, leadingSpaces_cons_space, ih]
      omega

/-- Whatever lines follow, the first one shows how far lines are indented. -/
theorem leadingSpaces_unlines (n : Nat) (line : Text) (more : List Text) :
    leadingSpaces (Text.unlines ((line :: more).map (indented n)))
      = n + leadingSpaces (Text.unlines (line :: more)) := by
  have hfeed : '\n' ≠ ' ' := by decide
  cases more with
  | nil => exact leadingSpaces_indented n line
  | cons next rest =>
      rw [List.map_cons, Text.unlines, Text.glue_cons (by simp only [List.map_cons, ne_eq,
        reduceCtorEq, not_false_eq_true]), leadingSpaces_append_cons hfeed, Text.unlines,
        Text.glue_cons (List.cons_ne_nil next rest), leadingSpaces_append_cons hfeed,
        leadingSpaces_indented]

theorem count_indented (n : Nat) (lines : List Text) :
    (Text.unlines (lines.map (indented n))).count '\n' = (Text.unlines lines).count '\n' := by
  have hline : ∀ line : Text, (indented n line).count '\n' = line.count '\n' := by
    intro line
    rw [indented, List.count_append, List.count_eq_zero_of_not_mem, Nat.zero_add]
    exact fun h => absurd (List.eq_of_mem_replicate h) (by decide)
  induction lines with
  | nil => rfl
  | cons line more ih =>
      cases more with
      | nil => exact hline line
      | cons next rest =>
          have hne : (next :: rest).map (indented n) ≠ [] := by
            simp only [List.map_cons, ne_eq, reduceCtorEq, not_false_eq_true]
          rw [List.map_cons, Text.unlines, Text.glue_cons hne, Text.unlines,
            Text.glue_cons (List.cons_ne_nil next rest), List.count_append, List.count_append,
            List.count_cons_self, List.count_cons_self, hline]
          exact congrArg (fun k => line.count '\n' + (k + 1)) ih

/-- Two texts are the same behind their first line feeds if they are the same
    as a whole. -/
theorem eq_behind_first_feed {a b s t : Text} (ha : '\n' ∉ a) (hb : '\n' ∉ b)
    (h : a ++ '\n' :: s = b ++ '\n' :: t) : s = t := by
  have hlines : s.lines = t.lines := by
    have hcut := congrArg (Text.cut '\n') h
    rw [Text.cut_append_cons ha, Text.cut_append_cons hb, List.cons.injEq] at hcut
    exact hcut.2
  rw [← Text.glue_cut '\n' s, ← Text.glue_cut '\n' t]
  exact congrArg Text.unlines hlines

theorem unlines_indented_append {front : Text} (h : '\n' ∉ front) (n : Nat) (t : Text) :
    Text.unlines ((front ++ '\n' :: t).lines.map (indented n))
      = indented n front ++ '\n' :: Text.unlines (t.lines.map (indented n)) := by
  have hne : t.lines.map (indented n) ≠ [] := fun h =>
    Text.cut_ne_nil '\n' t (List.map_eq_nil_iff.1 h)
  rw [Text.lines, Text.cut_append_cons h, List.map_cons, Text.unlines, Text.glue_cons hne]

/-- Two texts that have the same lines behind their first line feeds, up to the
    end of the last one: the one is not in the other once that is indented. -/
theorem not_infix_indented {f g rest u v : Text} {c d : Char} {n : Nat} (hf : '\n' ∉ f)
    (hg : '\n' ∉ g) (hu : '\n' ∉ c :: u) (hv : '\n' ∉ d :: v) (hc : c ≠ ' ') (hd : d ≠ ' ')
    (hn : 0 < n) :
    ¬ g ++ '\n' :: (rest ++ c :: u)
      <:+: Text.unlines ((f ++ '\n' :: (rest ++ d :: v)).lines.map (indented n)) := by
  rintro ⟨x, y, hxy⟩
  have hcount := congrArg (List.count '\n') hxy
  -- as many line feeds here as there, so none of them is in front
  have hx : '\n' ∉ x := by
    rw [count_indented, Text.unlines, Text.glue_cut] at hcount
    simp only [List.count_append, List.count_cons_self, List.count_eq_zero_of_not_mem hf,
      List.count_eq_zero_of_not_mem hg, List.count_eq_zero_of_not_mem hu,
      List.count_eq_zero_of_not_mem hv] at hcount
    exact List.count_eq_zero.1 (by omega)
  have hfront : '\n' ∉ x ++ g := fun h => (List.mem_append.1 h).elim hx hg
  rw [unlines_indented_append hf] at hxy
  have hbehind : (rest ++ c :: u) ++ y
      = Text.unlines ((rest ++ d :: v).lines.map (indented n)) := by
    refine eq_behind_first_feed hfront (notMem_indented (by decide) hf n) ?_
    rw [← hxy]
    simp only [List.append_assoc, List.cons_append]
  -- so they start with the same number of spaces, and with `n` more
  have hspaces := congrArg leadingSpaces hbehind
  cases hlines : (rest ++ d :: v).lines with
  | nil => exact Text.cut_ne_nil '\n' _ hlines
  | cons line more =>
      have hwhole : Text.unlines (line :: more) = rest ++ d :: v := by
        rw [← hlines]
        exact Text.glue_cut '\n' _
      rw [hlines, leadingSpaces_unlines, hwhole, leadingSpaces_append_cons hd, List.append_assoc,
        List.cons_append, leadingSpaces_append_cons hc] at hspaces
      omega

/-- A page whose only line asks for some spaces. -/
def lonePage (n : Nat) : Text := indented n "export function APage() \x7bconst [a".toList

theorem notMem_lonePage {c : Char} (hspace : c ≠ ' ')
    (h : c ∉ "export function APage() \x7bconst [a".toList) (n : Nat) : c ∉ lonePage n :=
  notMem_indented hspace h n

theorem indent_lonePage (n : Nat) : (lonePage n).indent = n := by
  induction n with
  | zero => decide
  | succ m ih => exact congrArg Nat.succ ih

theorem pageLine_lonePage (n : Nat) : pageLine (lonePage n) = some 0 := by
  induction n with
  | zero => decide
  | succ m ih => exact ih

theorem findSlot_lonePage (n : Nat) : findSlot (lonePage n) .hook = .ok (.line 0 n) := by
  have hlines : (lonePage n).lines = [lonePage n] :=
    Text.cut_of_notMem (notMem_lonePage (by decide) (by decide) n)
  have hsite : isHookSite (lonePage n) = true := by
    have hend : "const [a".toList <:+ "export function APage() \x7bconst [a".toList := by
      decide
    exact Text.someSuffix_iff.2
      ⟨"const [a".toList, hend.trans (List.suffix_append _ _), by decide⟩
  have hwindow : ([lonePage n].zipIdx.drop 0).take hookReach = [(lonePage n, 0)] := rfl
  simp only [findSlot, hookSlot, pageLine_lonePage, hlines, hwindow, List.find?_cons, hsite,
    indent_lonePage]

theorem not_hasFragment_lonePage (n : Nat) (tag : Text) :
    hasFragment (lonePage n) .hook tag = false := by
  have hH : 'H' ∉ lonePage n := notMem_lonePage (by decide) (by decide) n
  have hcall : ∀ quote, (lonePage n).mentions (hookCall quote tag) = false := by
    intro quote
    refine Bool.eq_false_iff.2 fun h => hH ((Text.mentions_iff.1 h).mem ?_)
    rw [hookCall_eq]
    exact List.mem_append_left _ (by decide)
  simp only [hasFragment, hcall, Bool.or_self]

/-- The page with the hook call in front of its only line. -/
theorem add_lonePage (n : Nat) (tag : Text) :
    Page.add (lonePage n) .hook tag
      = (Text.unlines ((hookLine tag).lines.map (indented n)) ++ '\n' :: lonePage n, .added) := by
  refine Page.add_of_slot (not_hasFragment_lonePage n tag) (findSlot_lonePage n) ?_
  have hlines : (lonePage n).lines = [lonePage n] :=
    Text.cut_of_notMem (notMem_lonePage (by decide) (by decide) n)
  have hne : (hookLine tag).lines.map (indented n) ≠ [] := fun h =>
    Text.cut_ne_nil '\n' (hookLine tag) (List.map_eq_nil_iff.1 h)
  rw [splice?, Option.some.injEq, insertLines, hlines, List.take_zero, List.drop_zero,
    List.nil_append]
  exact Text.glue_append hne (List.cons_ne_nil _ _)

theorem not_hookCall_infix_added (quote : Char) (hspace : quote ≠ ' ') (hfeed : quote ≠ '\n')
    (hquote : quote ∉ "export function APage() \x7bconst [a".toList) {tag : Text} {n : Nat}
    (htag : '\n' ∈ tag) (hn : 0 < n) :
    ¬ hookCall quote tag
      <:+: Text.unlines ((hookLine tag).lines.map (indented n)) ++ '\n' :: lonePage n := by
  intro h
  rcases List.infix_append_iff_ne_nil.1 h with h | h | ⟨s, t, -, ht, hst, -, htpage⟩
  · -- in the new lines
    rcases List.eq_append_cons_of_mem htag with ⟨first, rest, hsplit, hfirst⟩
    have hname : '\n' ∉ "useHelpPopup(".toList := by decide
    have hcall : hookCall quote tag = ("useHelpPopup(".toList ++ quote :: first)
        ++ '\n' :: (rest ++ quote :: [')']) := by
      rw [hookCall_eq, hsplit]
      simp only [List.append_assoc, List.cons_append]
    have hline : hookLine tag
        = ("const helpPopup = ".toList ++ ("useHelpPopup(".toList ++ '\'' :: first))
          ++ '\n' :: (rest ++ '\'' :: [')', ';']) := by
      rw [hookLine_eq, hookCall_eq, hsplit]
      simp only [List.append_assoc, List.cons_append, List.nil_append]
    rw [hcall, hline] at h
    refine not_infix_indented ?_ ?_ ?_ ?_ hspace (by decide) hn h
    · simp only [List.mem_append, List.mem_cons, not_or]
      exact ⟨by decide, hname, by decide, hfirst⟩
    · simp only [List.mem_append, List.mem_cons, not_or]
      exact ⟨hname, Ne.symm hfeed, hfirst⟩
    · simp only [List.mem_cons, not_or]
      exact ⟨Ne.symm hfeed, by decide, List.not_mem_nil⟩
    · decide
  · -- behind them
    have hH : 'H' ∉ '\n' :: lonePage n := by
      rw [List.mem_cons, not_or]
      exact ⟨by decide, notMem_lonePage (by decide) (by decide) n⟩
    refine hH (h.mem ?_)
    rw [hookCall_eq]
    exact List.mem_append_left _ (by decide)
  · -- across the line feed between them, its last quote in the page
    have hend : [quote, ')'] <:+ hookCall quote tag := by
      refine ⟨"useHelpPopup(".toList ++ quote :: tag, ?_⟩
      rw [hookCall_eq]
      simp only [List.append_assoc, List.cons_append]
    have htend : t <:+ hookCall quote tag := hst ▸ List.suffix_append s t
    have hquoteText : quote ∉ '\n' :: lonePage n := by
      rw [List.mem_cons, not_or]
      exact ⟨hfeed, notMem_lonePage hspace hquote n⟩
    -- the part in the page is the end of the call: at most `')`, or all of that
    rcases Nat.lt_or_ge t.length 2 with hshort | hlong
    · have hone : t <:+ [quote, ')'] :=
        List.suffix_of_suffix_length_le htend hend (Nat.le_of_lt hshort)
      cases t with
      | nil => exact ht rfl
      | cons d r =>
          rcases htpage with ⟨z, hz⟩
          rw [List.cons_append, List.cons.injEq] at hz
          rcases hz with ⟨rfl, -⟩
          rcases List.mem_cons.1 (hone.mem List.mem_cons_self) with h | h
          · exact hfeed h.symm
          · exact absurd h (by decide)
    · have htwo : [quote, ')'] <:+ t := List.suffix_of_suffix_length_le hend htend hlong
      exact hquoteText (htpage.mem (htwo.mem List.mem_cons_self))

theorem not_hasFragment_added {tag : Text} {n : Nat} (htag : '\n' ∈ tag) (hn : 0 < n) :
    hasFragment (Text.unlines ((hookLine tag).lines.map (indented n)) ++ '\n' :: lonePage n)
      .hook tag = false := by
  have hsingle := not_hookCall_infix_added '\'' (by decide) (by decide) (by decide)
    htag hn
  have hdouble := not_hookCall_infix_added '"' (by decide) (by decide) (by decide)
    htag hn
  rw [← Text.mentions_iff, Bool.not_eq_true] at hsingle hdouble
  simp only [hasFragment, hsingle, hdouble, Bool.or_self]

/-- A fragment that was put in at a slot with so many spaces is seen by its
    guard, and therefore not put in again, on every page: unless it is a hook
    call, its tag has a line feed and there are spaces. -/
theorem hasFragment_of_added_iff (kind : Kind) (tag : Text) (spaces : Nat) :
    (∀ page new slot, findSlot page kind = .ok slot → slot.spaces = spaces →
        Page.add page kind tag = (new, .added) →
          hasFragment new kind tag = true ∧ Page.add new kind tag = (new, .alreadyPresent))
      ↔ kind ≠ .hook ∨ '\n' ∉ tag ∨ spaces = 0 := by
  constructor
  · intro hall
    by_cases hkind : kind = .hook
    · by_cases htag : '\n' ∈ tag
      · -- `lonePage` has a slot with so many spaces, and there the guard fails
        refine Or.inr (Or.inr ?_)
        rcases Nat.eq_zero_or_pos spaces with hzero | hpos
        · exact hzero
        · subst hkind
          have hsees := (hall _ _ _ (findSlot_lonePage spaces) rfl (add_lonePage spaces tag)).1
          rw [not_hasFragment_added htag hpos] at hsees
          exact absurd hsees Bool.false_ne_true
      · exact Or.inr (Or.inl htag)
    · exact Or.inl hkind
  · rintro hcond page new slot hslot rfl hadd
    have hsees := Page.hasFragment_of_added hslot hadd hcond
    exact ⟨hsees, Page.add_of_hasFragment hsees⟩

/-- A tag on two lines that a catalog accepts. Its hook call is put in, is not
    seen, and is put in again. -/
theorem added_twice :
    let tag : Text := "a\nb".toList
    let page : Text := "export function APage() \x7b\n  const [x".toList
    let new : Text := (Page.add page .hook tag).1
    (Catalog.ofPairs [("APage.tsx".toList, tag)]).toOption
        = some ⟨[⟨"APage.tsx".toList, tag⟩]⟩
      ∧ Page.add page .hook tag = (new, .added)
      ∧ hasFragment new .hook tag = false
      ∧ (Page.add new .hook tag).2 = .added := by
  decide

end HelpWiring
