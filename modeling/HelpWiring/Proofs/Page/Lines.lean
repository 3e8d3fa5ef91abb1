import HelpWiring.Proofs.Page.Anchor

/-!
# Anchors by Lines

The anchors of the imports and of the hook call are lines, and the head of the
page function is on one line as well. So where these fragments belong is a
matter of the lines of a page, and only of those down to the anchor: whatever
is below it can be changed. Lines that come in above the page function push the
hook site down with it. Lines that come in anywhere bring no hook site into
reach, as long as they are none themselves and open no page.

## Main definitions

* `HookSite`: The line that the hook call goes in front of.

## Theorems

* `pageLine_eq`: The line of the page function, by lines.
* `hookSlot_eq_ok_iff`: The slot of the hook call, by lines.
* `pageLine_insert`: The line of the page function below or above new lines.
* `pageLine_of_lines`: The page function opens where it did if the lines down to
  there stay.
* `hookSlot_of_lines`: The slot of the hook call depends on the lines down to the site.
* `hookSlot_insert`: The slot of the hook call below new lines.
* `hookSlot_insert_inside`: The slot with new lines between page function and hook site.
* `hookSlot_error_insert`: New lines bring no slot along.
* `quiet_importLines`: The import lines are lines of that sort.
-/

namespace HelpWiring

theorem opensPage_cons_feed (line more : Text) :
    opensPage (line ++ '\n' :: more) = opensPage line :=
  opensPage_of_breaks ⟨'\n', more, rfl, by decide, Or.inl (by decide)⟩ line

/-- The head of the page function is on the first line that has one. -/
theorem pageLineFrom_eq (k : Nat) (t : Text) :
    pageLineFrom k t = (t.lines.findIdx? (Text.someSuffix opensPage)).map (· + k) := by
  induction t generalizing k with
  | nil => rfl
  | cons c r ih =>
      rw [pageLineFrom]
      by_cases hc : c = '\n'
      · -- the line ends, and no head starts with its end
        subst hc
        have hhead : opensPage ('\n' :: r) = false := opensPage_cons_feed [] r
        have hlines : Text.lines ('\n' :: r) = [] :: Text.lines r := Text.cut_cons_self '\n' r
        rw [hhead, if_neg Bool.false_ne_true, if_pos rfl, ih, hlines, List.findIdx?_cons,
          if_neg (by decide), Option.map_map]
        refine congrArg (Option.map · _) (funext fun i => ?_)
        rw [Function.comp_apply, Nat.add_assoc, Nat.add_comm 1]
      · rw [if_neg hc, ih, Text.lines, Text.lines, Text.cut_cons_other hc]
        cases hlines : Text.cut '\n' r with
        | nil => exact absurd hlines (Text.cut_ne_nil '\n' r)
        | cons line more =>
            have hhead : opensPage (c :: r) = opensPage (c :: line) := by
              cases more with
              | nil => rw [← Text.glue_cut '\n' r, hlines, Text.glue]
              | cons next rest =>
                  rw [← Text.glue_cut '\n' r, hlines, Text.glue_cons (List.cons_ne_nil next rest)]
                  exact opensPage_cons_feed (c :: line) _
            rw [hhead, List.modifyHead_cons, List.findIdx?_cons, List.findIdx?_cons,
              Text.someSuffix]
            by_cases hopen : opensPage (c :: line) = true
            · rw [if_pos hopen, hopen, Bool.true_or, if_pos rfl, Option.map_some, Nat.zero_add]
            · rw [if_neg hopen, Bool.eq_false_iff.2 hopen, Bool.false_or]

theorem pageLine_eq (page : Text) :
    pageLine page = page.lines.findIdx? (Text.someSuffix opensPage) := by
  rw [pageLine, pageLineFrom_eq]
  cases page.lines.findIdx? (Text.someSuffix opensPage) <;> rfl

/-- The line that the hook call goes in front of: the first hook site within reach of the
    line that opens the page function. -/
structure HookSite (page : Text) (start index : Nat) (line : Text) : Prop where
  opened : pageLine page = some start
  low : start ≤ index
  high : index < start + hookReach
  here : page.lines[index]? = some line
  site : isHookSite line = true
  first : ∀ j l, start ≤ j → j < index → page.lines[j]? = some l → isHookSite l = false

theorem HookSite.unique {page : Text} {start start' index index' : Nat} {line line' : Text}
    (h : HookSite page start index line) (h' : HookSite page start' index' line') :
    start = start' ∧ index = index' ∧ line = line' := by
  obtain rfl : start = start' := Option.some.inj (h.opened.symm.trans h'.opened)
  rcases Nat.lt_trichotomy index index' with hlt | rfl | hgt
  · have hno := h'.first index line h.low hlt h.here
    rw [h.site] at hno
    exact absurd hno Bool.true_eq_false.mp
  · exact ⟨rfl, rfl, Option.some.inj (h.here.symm.trans h'.here)⟩
  · have hno := h.first index' line' h'.low hgt h'.here
    rw [h'.site] at hno
    exact absurd hno Bool.true_eq_false.mp

theorem HookSite.exists_lines {page : Text} {start index : Nat} {line : Text}
    (h : HookSite page start index line) :
    ∃ above below, page.lines = above ++ line :: below ∧ above.length = index := by
  rcases List.getElem?_eq_some_iff.1 h.here with ⟨hlt, hline⟩
  refine ⟨page.lines.take index, page.lines.drop (index + 1), ?_, ?_⟩
  · rw [← hline, List.getElem_cons_drop, List.take_append_drop]
  · rw [List.length_take]
    omega

theorem getElem?_window {α : Type} (lines : List α) (start : Nat) {count i : Nat} (hi : i < count) :
    ((lines.zipIdx.drop start).take count)[i]?
      = (lines[start + i]?).map fun line => (line, start + i) := by
  rw [List.getElem?_take, if_pos hi, List.getElem?_drop, List.getElem?_zipIdx]
  simp only [Nat.zero_add]

theorem hookSite_of_hookSlot {page : Text} {slot : Slot} (h : hookSlot page = .ok slot) :
    ∃ start index line, HookSite page start index line ∧ slot = .line index line.indent := by
  simp only [hookSlot] at h
  split at h
  · cases h
  · rename_i start hstart
    split at h
    · rename_i line index hfind
      rcases List.find?_eq_some_iff_getElem.1 hfind with ⟨hsite, i, hi, hhere, hfirst⟩
      rcases mem_window.1 (hhere ▸ List.getElem_mem hi) with ⟨hlow, hhigh, hline⟩
      have hreach : i < hookReach := Nat.lt_of_lt_of_le hi (List.length_take_le _ _)
      -- the line is in its place among those that are searched
      have hindex : index = start + i := by
        have hplace := getElem?_window page.lines start hreach
        rw [List.getElem?_eq_getElem hi, hhere] at hplace
        rcases Option.map_eq_some_iff.1 hplace.symm with ⟨l, -, hl⟩
        exact (congrArg Prod.snd hl).symm
      refine ⟨start, index, line, ⟨hstart, hlow, hhigh, hline, hsite, ?_⟩,
        (Except.ok.inj h).symm⟩
      intro j l hj hjindex hl
      have hplace := getElem?_window page.lines start (by omega : j - start < hookReach)
      rw [show start + (j - start) = j by omega, hl] at hplace
      rcases List.getElem?_eq_some_iff.1 hplace with ⟨hlt, hjl⟩
      have hno := hfirst (j - start) (by omega)
      rw [hjl] at hno
      rwa [Bool.not_eq_true'] at hno
    · cases h

/-- The slot of the hook call is in front of the hook site, at its indentation. -/
theorem hookSlot_eq_ok_iff {page : Text} {slot : Slot} :
    hookSlot page = .ok slot
      ↔ ∃ start index line, HookSite page start index line ∧ slot = .line index line.indent := by
  refine ⟨hookSite_of_hookSlot, ?_⟩
  rintro ⟨start, index, line, hsite, rfl⟩
  cases hslot : hookSlot page with
  | ok slot =>
      rcases hookSite_of_hookSlot hslot with ⟨start', index', line', hsite', rfl⟩
      rcases hsite.unique hsite' with ⟨-, rfl, rfl⟩
      rfl
  | error reason =>
      exfalso
      rcases hookSlot_eq_error hslot with rfl | rfl
      · rw [hookSlot_eq_noPageFunction_iff, hsite.opened] at hslot
        cases hslot
      · rcases hookSlot_eq_noHookSite_iff.1 hslot with ⟨start', hstart', hnone⟩
        obtain rfl : start = start' := Option.some.inj (hsite.opened.symm.trans hstart')
        have hno := hnone index line hsite.low hsite.high hsite.here
        rw [hsite.site] at hno
        exact absurd hno Bool.true_eq_false.mp

theorem hookSite_of_line {page : Text} {index indent : Nat}
    (h : hookSlot page = .ok (.line index indent)) :
    ∃ start line, HookSite page start index line ∧ line.indent = indent := by
  rcases hookSite_of_hookSlot h with ⟨start, _, line, hsite, hslot⟩
  rw [Slot.line.injEq] at hslot
  rcases hslot with ⟨rfl, rfl⟩
  exact ⟨start, line, hsite, rfl⟩

theorem findIdx?_left {α : Type} {p : α → Bool} {front back : List α} {i : Nat}
    (h : (front ++ back).findIdx? p = some i) (hi : i < front.length) :
    front.findIdx? p = some i := by
  rw [List.findIdx?_append] at h
  cases hfind : front.findIdx? p with
  | some j => rwa [hfind, Option.some_or] at h
  | none =>
      -- then it would be found behind the front only
      rw [hfind, Option.none_or] at h
      rcases Option.map_eq_some_iff.1 h with ⟨j, -, rfl⟩
      omega

section

variable {page new : Text} {front back : List Text}

theorem pageLine_of_lines {start : Nat} {back' : List Text} (hpage : page.lines = front ++ back)
    (hnew : new.lines = front ++ back') (h : pageLine page = some start)
    (hstart : start < front.length) : pageLine new = some start := by
  rw [pageLine_eq, hpage] at h
  rw [pageLine_eq, hnew, List.findIdx?_append, findIdx?_left h hstart, Option.some_or]

theorem hookSlot_of_lines {index indent : Nat} {back' : List Text}
    (hpage : page.lines = front ++ back) (hnew : new.lines = front ++ back')
    (h : hookSlot page = .ok (.line index indent)) (hindex : index < front.length) :
    hookSlot new = .ok (.line index indent) := by
  rcases hookSite_of_line h with ⟨start, line, hsite, rfl⟩
  have hsame : ∀ j ≤ index, new.lines[j]? = page.lines[j]? := by
    intro j hj
    rw [hpage, hnew, List.getElem?_append_left (by omega), List.getElem?_append_left (by omega)]
  -- the page function opens no further down than the hook site, so it is among these lines too
  have hopened : pageLine new = some start :=
    pageLine_of_lines hpage hnew hsite.opened (Nat.lt_of_le_of_lt hsite.low hindex)
  refine hookSlot_eq_ok_iff.2 ⟨start, index, line,
    ⟨hopened, hsite.low, hsite.high, ?_, hsite.site, fun j l hj hjindex hl => ?_⟩, rfl⟩
  · exact (hsame index (Nat.le_refl index)).trans hsite.here
  · exact hsite.first j l hj hjindex ((hsame j (Nat.le_of_lt hjindex)).symm.trans hl)

end

section

-- a page and some lines that come in between two of its own
variable {page new : Text} {front block back : List Text}

theorem getElem?_above (hpage : page.lines = front ++ back)
    (hnew : new.lines = front ++ (block ++ back)) {j : Nat} (hj : j < front.length) :
    new.lines[j]? = page.lines[j]? := by
  rw [hpage, hnew, List.getElem?_append_left hj, List.getElem?_append_left hj]

theorem getElem?_below (hpage : page.lines = front ++ back)
    (hnew : new.lines = front ++ (block ++ back)) {j : Nat} (hj : front.length ≤ j) :
    new.lines[j + block.length]? = page.lines[j]? := by
  rw [hpage, hnew, List.getElem?_append_right (by omega), List.getElem?_append_right (by omega),
    List.getElem?_append_right hj]
  congr 1
  omega

/-- The import lines open no page, and are no hook sites. -/
theorem quiet_importLines : ∀ line ∈ importLines.lines,
    Text.someSuffix opensPage line = false ∧ isHookSite line = false := by
  decide +kernel

/-- New lines that open no page leave the line of the page function above them where it
    is, and push it down below them. -/
theorem pageLine_insert (hpage : page.lines = front ++ back)
    (hnew : new.lines = front ++ (block ++ back))
    (hblock : ∀ line ∈ block, Text.someSuffix opensPage line = false) :
    pageLine new = (pageLine page).map fun start =>
      if start < front.length then start else start + block.length := by
  rw [pageLine_eq, pageLine_eq, hpage, hnew, List.findIdx?_append, List.findIdx?_append,
    List.findIdx?_append, List.findIdx?_eq_none_iff.2 hblock, Option.none_or]
  cases hfind : front.findIdx? (Text.someSuffix opensPage) with
  | some j =>
      have hlt := (List.findIdx?_eq_some_iff_getElem.1 hfind).1
      rw [Option.some_or, Option.some_or, Option.map_some, if_pos hlt]
  | none =>
      rw [Option.none_or, Option.none_or, Option.map_map, Option.map_map]
      refine congrArg (Option.map · _) (funext fun i => ?_)
      simp only [Function.comp_apply]
      rw [if_neg (by omega)]
      omega

/-- Below new lines that come in above the page function. -/
theorem hookSlot_insert (hpage : page.lines = front ++ back)
    (hnew : new.lines = front ++ (block ++ back))
    (hblock : ∀ line ∈ block, Text.someSuffix opensPage line = false) {start index indent : Nat}
    (hstart : pageLine page = some start) (habove : front.length ≤ start)
    (h : hookSlot page = .ok (.line index indent)) :
    hookSlot new = .ok (.line (index + block.length) indent) := by
  rcases hookSite_of_line h with ⟨start', line, hsite, rfl⟩
  obtain rfl : start = start' := Option.some.inj (hstart.symm.trans hsite.opened)
  have hlow := hsite.low
  have hhigh := hsite.high
  have hopened : pageLine new = some (start + block.length) := by
    rw [pageLine_insert hpage hnew hblock, hstart, Option.map_some, if_neg (by omega)]
  refine hookSlot_eq_ok_iff.2 ⟨start + block.length, index + block.length, line,
    ⟨hopened, by omega, by omega, ?_, hsite.site, fun j l hj hjindex hl => ?_⟩, rfl⟩
  · rw [getElem?_below hpage hnew (by omega)]
    exact hsite.here
  · -- the lines in between have moved with the two
    refine hsite.first (j - block.length) l (by omega) (by omega) ?_
    rw [← getElem?_below hpage hnew (by omega), Nat.sub_add_cancel (by omega)]
    exact hl

/-- With new lines between the page function and the hook site, the site is further away, and
    may be out of reach. -/
theorem hookSlot_insert_inside (hpage : page.lines = front ++ back)
    (hnew : new.lines = front ++ (block ++ back))
    (hblock : ∀ line ∈ block, Text.someSuffix opensPage line = false ∧ isHookSite line = false)
    {start index : Nat} {line : Text} (h : HookSite page start index line)
    (hstart : start < front.length) (hindex : front.length ≤ index) :
    hookSlot new = if index + block.length < start + hookReach
      then .ok (.line (index + block.length) line.indent) else .error .noHookSite := by
  have hopened : pageLine new = some start := by
    rw [pageLine_insert hpage hnew fun l hl => (hblock l hl).1, h.opened, Option.map_some,
      if_pos hstart]
  -- no line above the site is one, be it old or new
  have hnone : ∀ j l, start ≤ j → j < index + block.length → new.lines[j]? = some l →
      isHookSite l = false := by
    intro j l hlow hhigh hl
    rcases Nat.lt_or_ge j front.length with hj | hj
    · rw [getElem?_above hpage hnew hj] at hl
      exact h.first j l hlow (by omega) hl
    · rcases Nat.lt_or_ge j (front.length + block.length) with hj' | hj'
      · rw [hnew, List.getElem?_append_right hj, List.getElem?_append_left (by omega)] at hl
        exact (hblock l (List.mem_of_getElem? hl)).2
      · refine h.first (j - block.length) l (by omega) (by omega) ?_
        rw [← getElem?_below hpage hnew (by omega), Nat.sub_add_cancel (by omega)]
        exact hl
  by_cases hreach : index + block.length < start + hookReach
  · rw [if_pos hreach]
    refine hookSlot_eq_ok_iff.2 ⟨start, index + block.length, line,
      ⟨hopened, by omega, hreach, ?_, h.site, hnone⟩, rfl⟩
    rw [getElem?_below hpage hnew hindex]
    exact h.here
  · rw [if_neg hreach]
    exact hookSlot_eq_noHookSite_iff.2 ⟨start, hopened, fun j l hlow hhigh hl =>
      hnone j l hlow (by omega) hl⟩

/-- Where there is no slot for the hook call, new lines bring none along. -/
theorem hookSlot_error_insert (hpage : page.lines = front ++ back)
    (hnew : new.lines = front ++ (block ++ back))
    (hblock : ∀ line ∈ block, Text.someSuffix opensPage line = false ∧ isHookSite line = false)
    {reason : AnchorFault} (h : hookSlot page = .error reason) :
    hookSlot new = .error reason := by
  have hopened := pageLine_insert hpage hnew fun line hline => (hblock line hline).1
  rcases hookSlot_eq_error h with rfl | rfl
  · rw [hookSlot_eq_noPageFunction_iff] at h ⊢
    rw [hopened, h, Option.map_none]
  · rw [hookSlot_eq_noHookSite_iff] at h ⊢
    rcases h with ⟨start, hstart, hsites⟩
    rw [hstart, Option.map_some] at hopened
    refine ⟨_, hopened, fun j line hlow hhigh hline => ?_⟩
    -- the page function moves down by all of the new lines or by none, so a line is never
    -- nearer to it than it was
    have hmoves : start < front.length ∧ start ≤ j ∧ j < start + hookReach
        ∨ front.length ≤ start ∧ start + block.length ≤ j
          ∧ j < start + block.length + hookReach := by
      rcases Nat.lt_or_ge start front.length with habove | hbelow
      · rw [if_pos habove] at hlow hhigh
        exact Or.inl ⟨habove, hlow, hhigh⟩
      · rw [if_neg (by omega)] at hlow hhigh
        exact Or.inr ⟨hbelow, hlow, hhigh⟩
    rcases Nat.lt_or_ge j front.length with hj | hj
    · rw [getElem?_above hpage hnew hj] at hline
      exact hsites j line (by omega) (by omega) hline
    · rcases Nat.lt_or_ge j (front.length + block.length) with hj' | hj'
      · rw [hnew, List.getElem?_append_right hj, List.getElem?_append_left (by omega)] at hline
        exact (hblock line (List.mem_of_getElem? hline)).2
      · refine hsites (j - block.length) line (by omega) (by omega) ?_
        rw [← getElem?_below hpage hnew (by omega), Nat.sub_add_cancel (by omega)]
        exact hline

end

end HelpWiring
