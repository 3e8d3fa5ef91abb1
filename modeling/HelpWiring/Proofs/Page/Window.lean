import HelpWiring.Proofs.Page.Lines
import HelpWiring.Proofs.Text.Places
import Mathlib.Data.Set.Basic

/-!
# The Window of the Hook Site

The hook call goes in front of the first hook site of the page function, and the
page function is known by its head. Heads and sites are said here by grammars,
without a search and without a rule how far a name is read: a name is any run of
word characters, and what makes up a head or a site is put together from names
and fixed pieces.

A name can end in `Page` more than once, or be followed by another name that
ends so, and heads can be many. It is the first head of the page that counts,
and of that the line in which it ends. From there on twenty lines are looked at,
that line included, and what is behind the last line of the page is left out.

## Main definitions

* `IsHead`, `FirstHead`, `HeadLine`: The head of a page function, the first one
  of a page, and the line in which it ends.
* `HasSite`: A line with a hook call or a state.
* `siteLines`: The lines in the window that have one.

## Theorems

* `opensPage_iff_isHead`, `isHookSite_iff`: The searches look for heads and sites.
* `firstHead_iff`: The first head is where the search for heads stops.
* `pageLine_eq_some_iff`: It is in the line that was found.
* `hookSlot_grammar`: The slot of the hook call, by the grammars.
-/

namespace HelpWiring

/-- A run of word characters, at least one. -/
def Text.IsName (t : Text) : Prop := t ≠ [] ∧ ∀ c ∈ t, isWord c = true

/-- The head of a page function. There is more to its name than `Page` at the end. -/
def IsHead (head : Text) : Prop :=
  ∃ name, Text.IsName name ∧ head = "export function ".toList ++ (name ++ "Page() \x7b".toList)

/-- A constant that a hook call defines. -/
def IsCall (t : Text) : Prop :=
  ∃ name hook, Text.IsName name ∧ Text.IsName hook
    ∧ t = "const ".toList ++ (name ++ (" = use".toList ++ (hook ++ ['('])))

/-- The first of the constants that are taken out of a state. -/
def IsState (t : Text) : Prop := ∃ name, Text.IsName name ∧ t = "const [".toList ++ name

/-- A hook call or a state is somewhere in the line. -/
def HasSite (line : Text) : Prop := ∃ site, (IsCall site ∨ IsState site) ∧ site <:+: line

/-- A head between two parts of a page, and none that begins further to the front. -/
structure FirstHead (page front head back : Text) : Prop where
  page_eq : page = front ++ (head ++ back)
  isHead : IsHead head
  first : ∀ front' head' back', page = front' ++ (head' ++ back') → IsHead head' →
    front.length ≤ front'.length

/-- The first head ends in this line: so many line feeds are in front of its end. -/
def HeadLine (page : Text) (line : Nat) : Prop :=
  ∃ front head back, FirstHead page front head back ∧ (front ++ head).count '\n' = line

/-- The lines with a hook site in the window: twenty lines from `start` on. -/
def siteLines (page : Text) (start : Nat) : Set Nat :=
  {i | start ≤ i ∧ i < start + 20 ∧ ∃ line, page.lines[i]? = some line ∧ HasSite line}

theorem opensPage_iff_isHead {t : Text} :
    opensPage t = true ↔ ∃ head, IsHead head ∧ head <+: t := by
  have hsplit : "Page() \x7b".toList = "Page".toList ++ "() \x7b".toList := by decide
  rw [opensPage_iff]
  constructor
  · rintro ⟨whole, rest, rfl, hword, hlong, name, rfl⟩
    rw [List.length_append] at hlong
    have hne : name ≠ [] := List.ne_nil_of_length_pos (Nat.pos_of_lt_add_left hlong)
    refine ⟨_, ⟨name, ⟨hne, fun c hc => hword c (List.mem_append_left _ hc)⟩, rfl⟩, rest, ?_⟩
    rw [hsplit]
    simp only [List.append_assoc]
  · rintro ⟨_, ⟨name, ⟨hne, hword⟩, rfl⟩, rest, rfl⟩
    have hpage : "Page".toList.all isWord = true := by decide
    refine ⟨name ++ "Page".toList, rest, ?_, ?_, ?_, List.suffix_append _ _⟩
    · rw [hsplit]
      simp only [List.append_assoc]
    · exact List.forall_mem_append.2 ⟨hword, List.all_eq_true.1 hpage⟩
    · have hlong := List.length_pos_iff.2 hne
      rw [List.length_append, show "Page".toList.length = 4 from rfl]
      omega

theorem callsHook_iff_isCall {t : Text} : callsHook t = true ↔ ∃ site, IsCall site ∧ site <+: t := by
  rw [callsHook_iff]
  constructor
  · rintro ⟨name, hook, rest, rfl, hne, hword, hne', hword'⟩
    refine ⟨_, ⟨name, hook, ⟨hne, hword⟩, ⟨hne', hword'⟩, rfl⟩, rest, ?_⟩
    simp only [List.append_assoc, List.singleton_append]
  · rintro ⟨_, ⟨name, hook, ⟨hne, hword⟩, ⟨hne', hword'⟩, rfl⟩, rest, rfl⟩
    refine ⟨name, hook, rest, ?_, hne, hword, hne', hword'⟩
    simp only [List.append_assoc, List.singleton_append]

theorem takesState_iff_isState {t : Text} :
    takesState t = true ↔ ∃ site, IsState site ∧ site <+: t := by
  rw [takesState_iff]
  constructor
  · -- one character of the name is enough
    rintro ⟨c, rest, rfl, hc⟩
    refine ⟨_, ⟨[c], ⟨List.cons_ne_nil c [], fun d hd => List.mem_singleton.1 hd ▸ hc⟩, rfl⟩,
      rest, ?_⟩
    rw [List.append_assoc, List.singleton_append]
  · rintro ⟨_, ⟨name, ⟨hne, hword⟩, rfl⟩, rest, rfl⟩
    cases name with
    | nil => exact absurd rfl hne
    | cons c name =>
        refine ⟨c, name ++ rest, ?_, hword c List.mem_cons_self⟩
        rw [List.append_assoc, List.cons_append]

theorem isHookSite_iff {line : Text} : isHookSite line = true ↔ HasSite line := by
  simp only [isHookSite, Text.someSuffix_iff, Bool.or_eq_true, callsHook_iff_isCall,
    takesState_iff_isState, HasSite]
  constructor
  · rintro ⟨t, ht, ⟨site, hsite, hpre⟩ | ⟨site, hsite, hpre⟩⟩
    · exact ⟨site, Or.inl hsite, hpre.isInfix.trans ht.isInfix⟩
    · exact ⟨site, Or.inr hsite, hpre.isInfix.trans ht.isInfix⟩
  · rintro ⟨site, hsite, front, back, rfl⟩
    refine ⟨site ++ back, ⟨front, (List.append_assoc _ _ _).symm⟩, hsite.imp ?_ ?_⟩
    · exact fun hcall => ⟨site, hcall, List.prefix_append site back⟩
    · exact fun hstate => ⟨site, hstate, List.prefix_append site back⟩

/-- A head is on one line. -/
theorem IsHead.count_feed {head : Text} (h : IsHead head) : head.count '\n' = 0 := by
  rcases h with ⟨name, ⟨-, hword⟩, rfl⟩
  have hname : '\n' ∉ name := fun hmem => absurd (hword '\n' hmem) (by decide)
  rw [List.count_append, List.count_append, List.count_eq_zero.2 hname]
  decide

/-- The first head begins at the first place where a page opens. -/
theorem firstHead_iff {page front head back : Text} :
    FirstHead page front head back
      ↔ page = front ++ (head ++ back) ∧ IsHead head
        ∧ Text.FirstPlace opensPage front (head ++ back) := by
  have hopens : ∀ {head back : Text}, IsHead head → opensPage (head ++ back) = true :=
    fun hhead => opensPage_iff_isHead.2 ⟨_, hhead, List.prefix_append _ _⟩
  constructor
  · rintro ⟨rfl, hhead, hfirst⟩
    refine ⟨rfl, hhead, Text.firstPlace_iff_length_le.2 ⟨hopens hhead, fun a b heq hb => ?_⟩⟩
    rcases opensPage_iff_isHead.1 hb with ⟨head', hhead', rest, rfl⟩
    exact hfirst a head' rest heq hhead'
  · rintro ⟨rfl, hhead, hfirst⟩
    refine ⟨rfl, hhead, fun front' head' back' heq hhead' => ?_⟩
    exact (Text.firstPlace_iff_length_le.1 hfirst).2 front' _ heq (hopens hhead')

/-- The search for the head stops at the first place where a page opens, and counts the
    line feeds in front. -/
theorem pageLineFrom_eq_some_iff {k n : Nat} {t : Text} :
    pageLineFrom k t = some n ↔ ∃ a b, t = a ++ b ∧ Text.FirstPlace opensPage a b
      ∧ k + a.count '\n' = n := by
  -- on the text, as the search goes on behind a character where no page opens
  induction t generalizing k with
  | nil =>
      refine iff_of_false (fun h => nomatch h) ?_
      rintro ⟨a, b, hab, ⟨hopens, -⟩, -⟩
      rw [(List.append_eq_nil_iff.1 hab.symm).2] at hopens
      exact absurd hopens (by decide)
  | cons c r ih =>
      rw [pageLineFrom, Text.exists_firstPlace_cons_iff (P := fun a => k + a.count '\n' = n)]
      cases hc : opensPage (c :: r) with
      | true =>
          simp only [if_true, Option.some.injEq, List.count_nil, Nat.add_zero, true_and,
            Bool.true_eq_false, false_and, or_false]
      | false =>
          have hcount : ∀ a : Text, (if c = '\n' then k + 1 else k) + a.count '\n'
              = k + (c :: a).count '\n' := by
            intro a
            by_cases hfeed : c = '\n'
            · rw [if_pos hfeed, hfeed, List.count_cons_self]
              omega
            · rw [if_neg hfeed, List.count_cons_of_ne hfeed]
          simp only [Bool.false_eq_true, if_false, ih, hcount, false_and, true_and, false_or]

theorem pageLine_eq_some_iff {page : Text} {line : Nat} :
    pageLine page = some line ↔ HeadLine page line := by
  rw [pageLine, pageLineFrom_eq_some_iff]
  constructor
  · rintro ⟨front, rest, rfl, hfirst, rfl⟩
    rcases opensPage_iff_isHead.1 hfirst.1 with ⟨head, hhead, back, rfl⟩
    refine ⟨front, head, back, firstHead_iff.2 ⟨rfl, hhead, hfirst⟩, ?_⟩
    rw [List.count_append, hhead.count_feed, Nat.zero_add, Nat.add_zero]
  · rintro ⟨front, head, back, hhead, rfl⟩
    rcases firstHead_iff.1 hhead with ⟨rfl, hhead, hfirst⟩
    refine ⟨front, head ++ back, rfl, hfirst, ?_⟩
    rw [List.count_append, hhead.count_feed, Nat.zero_add, Nat.add_zero]

theorem pageLine_eq_none_iff {page : Text} :
    pageLine page = none ↔ ∀ head, IsHead head → ¬ head <:+: page := by
  rw [pageLine, pageLineFrom_eq_none_iff]
  constructor
  · rintro h head hhead ⟨front, back, rfl⟩
    have hopens : opensPage (head ++ back) = true :=
      opensPage_iff_isHead.2 ⟨head, hhead, List.prefix_append head back⟩
    have hne : head ++ back ≠ [] := by
      rintro hnil
      rw [hnil] at hopens
      exact absurd hopens (by decide)
    rw [h (head ++ back) hne ⟨front, (List.append_assoc _ _ _).symm⟩] at hopens
    exact Bool.false_ne_true hopens
  · intro h s _ hs
    refine Bool.eq_false_iff.2 fun hopens => ?_
    rcases opensPage_iff_isHead.1 hopens with ⟨head, hhead, hpre⟩
    exact h head hhead (hpre.isInfix.trans hs.isInfix)

/-- A hook site in the window that is searched. -/
theorem mem_siteLines_iff {page : Text} {start i : Nat} :
    i ∈ siteLines page start
      ↔ start ≤ i ∧ i < start + hookReach ∧ ∃ line, page.lines[i]? = some line
        ∧ isHookSite line = true := by
  simp only [isHookSite_iff]
  rfl

theorem siteLines_eq_empty_iff {page : Text} {start : Nat} :
    siteLines page start = ∅ ↔ ∀ i line, start ≤ i → i < start + hookReach →
      page.lines[i]? = some line → isHookSite line = false := by
  rw [Set.eq_empty_iff_forall_notMem]
  simp only [mem_siteLines_iff]
  constructor
  · exact fun h i line hlow hhigh hline => Bool.eq_false_iff.2 fun hsite =>
      h i ⟨hlow, hhigh, line, hline, hsite⟩
  · rintro h i ⟨hlow, hhigh, line, hline, hsite⟩
    rw [h i line hlow hhigh hline] at hsite
    exact Bool.false_ne_true hsite

/-- The line that the hook call goes in front of is the first one with a site. -/
theorem hookSite_iff {page line : Text} {start index : Nat} :
    HookSite page start index line ↔ HeadLine page start
      ∧ IsLeast (siteLines page start) index ∧ page.lines[index]? = some line := by
  rw [← pageLine_eq_some_iff]
  constructor
  · intro h
    refine ⟨h.opened, ⟨mem_siteLines_iff.2 ⟨h.low, h.high, line, h.here, h.site⟩, ?_⟩, h.here⟩
    intro j hj
    rcases mem_siteLines_iff.1 hj with ⟨hlow, -, l, hl, hsite⟩
    refine Nat.le_of_not_lt fun hlt => ?_
    rw [h.first j l hlow hlt hl] at hsite
    exact Bool.false_ne_true hsite
  · rintro ⟨hopened, ⟨hmem, hleast⟩, hline⟩
    rcases mem_siteLines_iff.1 hmem with ⟨hlow, hhigh, l, hl, hsite⟩
    obtain rfl : l = line := Option.some.inj (hl.symm.trans hline)
    refine ⟨hopened, hlow, hhigh, hline, hsite, fun j l hj hjindex hl => ?_⟩
    refine Bool.eq_false_iff.2 fun hsite => Nat.not_le_of_lt hjindex (hleast ?_)
    exact mem_siteLines_iff.2 ⟨hj, Nat.lt_trans hjindex hhigh, l, hl, hsite⟩

/-- The blanks in front of a line are those up to the first character that is none. -/
theorem exists_indent_iff {line : Text} {n : Nat} :
    line.indent = n ↔ ∃ run rest, line = run ++ rest ∧ (∀ c ∈ run, isBlank c = true)
      ∧ (∀ c ∈ rest.head?, isBlank c = false) ∧ run.length = n := by
  constructor
  · rintro rfl
    refine ⟨line.takeWhile isBlank, line.dropWhile isBlank, List.takeWhile_append_dropWhile.symm,
      List.all_eq_true.1 List.all_takeWhile, fun c hc => ?_, rfl⟩
    have hstop := List.head?_dropWhile_not isBlank line
    rw [hc] at hstop
    exact hstop
  · rintro ⟨run, rest, rfl, hrun, hrest, rfl⟩
    rw [Text.indent, List.takeWhile_append_of_pos hrun, (Text.takeWhile_of_head hrest).1,
      List.append_nil]

/-- The hook call goes in front of the first line with a hook site among the twenty lines
    that begin with the end of the first head, behind as many spaces as there are blanks in
    front of that line. There is no slot for it if there is no head, or no such line. -/
theorem hookSlot_grammar (page : Text) :
    (∀ slot, hookSlot page = .ok slot ↔ ∃ start index run rest,
        HeadLine page start ∧ IsLeast (siteLines page start) index
        ∧ page.lines[index]? = some (run ++ rest) ∧ (∀ c ∈ run, isBlank c = true)
        ∧ (∀ c ∈ rest.head?, isBlank c = false) ∧ slot = .line index run.length)
    ∧ ∀ reason, hookSlot page = .error reason
      ↔ reason = .noPageFunction ∧ (∀ head, IsHead head → ¬ head <:+: page)
        ∨ reason = .noHookSite ∧ ∃ start, HeadLine page start ∧ siteLines page start = ∅ := by
  constructor
  · intro slot
    rw [hookSlot_eq_ok_iff]
    simp only [hookSite_iff]
    constructor
    · rintro ⟨start, index, line, ⟨hhead, hleast, hline⟩, rfl⟩
      rcases exists_indent_iff.1 (rfl : line.indent = line.indent) with
        ⟨run, rest, rfl, hrun, hrest, hindent⟩
      exact ⟨start, index, run, rest, hhead, hleast, hline, hrun, hrest, by rw [hindent]⟩
    · rintro ⟨start, index, run, rest, hhead, hleast, hline, hrun, hrest, rfl⟩
      refine ⟨start, index, run ++ rest, ⟨hhead, hleast, hline⟩, ?_⟩
      rw [exists_indent_iff.2 ⟨run, rest, rfl, hrun, hrest, rfl⟩]
  · intro reason
    simp only [← pageLine_eq_none_iff, ← pageLine_eq_some_iff, siteLines_eq_empty_iff]
    rw [← hookSlot_eq_noPageFunction_iff, ← hookSlot_eq_noHookSite_iff]
    constructor
    · intro h
      rcases hookSlot_eq_error h with rfl | rfl
      · exact Or.inl ⟨rfl, h⟩
      · exact Or.inr ⟨rfl, h⟩
    · rintro (⟨rfl, h⟩ | ⟨rfl, h⟩)
      · exact h
      · exact h

/-- There has to be more to the name than `Page`, and that may be `Page` again. -/
example : hookSlot "export function Page() \x7b\nexport function PagePage() \x7b\n  const [x".toList
    = .ok (.line 2 2) := by decide +kernel

end HelpWiring
