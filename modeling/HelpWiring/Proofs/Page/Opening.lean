import HelpWiring.Proofs.Page.Placement
import HelpWiring.Proofs.Page.Window
import Mathlib.Data.List.Infix

/-!
# The Line That Opens the Page Function

The window of the hook site begins with the line in which the head of the page
function ends, so the hook call never goes above that line. It may go right in
front of it: the line is looked at as a whole, and a hook site can stand in it
behind the head, or even in front. `call_at_head` is such a page.

If there is none in that line, the site is further down, and the hook call comes
behind the head together with all the rest of its line. The page function opens
where it did.

## Theorems

* `add_hook_behind`: The hook call below the line of the head.
* `call_behind_head`: Where the hook call goes, and when that is below the head.
* `call_at_head`: A page where it goes in front of the head.
-/

namespace HelpWiring

/-- Below the line of the head, the hook call comes behind the head and the rest of its
    line, and the page function opens where it did. -/
theorem add_hook_behind {page front head back tag : Text} {index indent : Nat}
    (hhead : FirstHead page front head back) (hslot : hookSlot page = .ok (.line index indent))
    (hbelow : (front ++ head).count '\n' < index) (hno : hasFragment page .hook tag = false) :
    ∃ x y, back = x ++ '\n' :: y
      ∧ Page.add page .hook tag
        = (front ++ (head ++ (x ++ '\n' :: (Kind.hook.rows indent tag ++ y))), .added)
      ∧ HeadLine (Page.add page .hook tag).1 ((front ++ head).count '\n') := by
  rcases hookSite_of_line hslot with ⟨start, line, hsite, -⟩
  have hlt : index < page.lines.length := (List.getElem?_eq_some_iff.1 hsite.here).1
  have hfeed : ∀ line ∈ page.lines.take index, '\n' ∉ line := fun line hline =>
    Text.notMem_of_mem_cut (List.mem_of_mem_take hline)
  have hlength : (page.lines.take index).length = index := by
    rw [List.length_take, Nat.min_eq_left (Nat.le_of_lt hlt)]
  have hopened : pageLine page = some ((front ++ head).count '\n') :=
    pageLine_eq_some_iff.2 ⟨front, head, back, hhead, rfl⟩
  -- the page is the rows above the site and the text from there on
  have hrows := Text.eq_rows_append hlt
  have hlines := congrArg Text.lines hrows
  rw [Text.lines_rows_append hfeed] at hlines
  generalize page.lines.take index = above at hfeed hlength hrows hlines
  generalize Text.unlines (page.lines.drop index) = rest at hrows hlines
  have hadd : Page.add page .hook tag
      = (Text.rows above ++ (Kind.hook.rows indent tag ++ rest), .added) := by
    rw [hrows] at hno hslot ⊢
    exact Page.add_rows hfeed hno (by rw [hlength]; exact hslot)
  have hparts : (front ++ head) ++ back = Text.rows above ++ rest := by
    rw [List.append_assoc, ← hhead.page_eq]
    exact hrows
  rcases Text.rows_behind hfeed hparts (by rw [hlength]; exact hbelow) with ⟨x, habove, hback⟩
  refine ⟨x, rest, by rw [hback, List.append_assoc, List.singleton_append], ?_, ?_⟩
  · rw [hadd, habove]
    simp only [List.append_assoc, List.singleton_append]
  · rw [hadd, ← pageLine_eq_some_iff]
    exact pageLine_of_lines hlines (Text.lines_rows_append hfeed _) hopened (by omega)

/-- The hook call never goes above the line in which the head of the page function ends.
    It goes below it exactly if this line has no hook site, and then it comes behind the
    head and the rest of its line, and the page function opens where it did. -/
theorem call_behind_head {page front head back : Text} {index indent : Nat}
    (hhead : FirstHead page front head back) (hslot : hookSlot page = .ok (.line index indent)) :
    (front ++ head).count '\n' ≤ index
    ∧ ((front ++ head).count '\n' < index
      ↔ ∀ line, page.lines[(front ++ head).count '\n']? = some line → ¬ HasSite line)
    ∧ ((front ++ head).count '\n' < index → ∀ tag, hasFragment page .hook tag = false →
      ∃ x y, back = x ++ '\n' :: y
        ∧ Page.add page .hook tag
          = (front ++ (head ++ (x ++ '\n' :: (Kind.hook.rows indent tag ++ y))), .added)
        ∧ HeadLine (Page.add page .hook tag).1 ((front ++ head).count '\n')) := by
  rcases hookSite_of_line hslot with ⟨start, line, hsite, -⟩
  obtain rfl : start = (front ++ head).count '\n' :=
    Option.some.inj (hsite.opened.symm.trans
      (pageLine_eq_some_iff.2 ⟨front, head, back, hhead, rfl⟩))
  refine ⟨hsite.low, ⟨fun hbelow l hl hhas => ?_, fun hnone => ?_⟩, fun hbelow tag hno => ?_⟩
  · have hno := hsite.first _ l (Nat.le_refl _) hbelow hl
    rw [isHookSite_iff.2 hhas] at hno
    exact Bool.true_eq_false.mp hno
  · -- the line of the hook site is not this one
    refine Nat.lt_of_le_of_ne hsite.low ?_
    rintro rfl
    exact hnone line hsite.here (isHookSite_iff.1 hsite.site)
  · exact add_hook_behind hhead hslot hbelow hno

/-- A page with an import, a page function and a state in the line below its head. -/
def lowStatePage : Text :=
  "import a\nexport function APage() \x7b // a\n  const [x] = f();\n".toList

theorem firstHead_lowStatePage :
    FirstHead lowStatePage "import a\n".toList "export function APage() \x7b".toList
      " // a\n  const [x] = f();\n".toList := by
  have hname : ∀ c ∈ "A".toList, isWord c = true := List.all_eq_true.1 (by decide)
  have hnone : ∀ s ∈ "import a\n".toList.tails, s ≠ [] → opensPage (s ++
      ("export function APage() \x7b".toList ++ " // a\n  const [x] = f();\n".toList)) = false := by
    decide +kernel
  refine firstHead_iff.2 ⟨by decide, ⟨"A".toList, ⟨by decide, hname⟩, by decide⟩, by decide +kernel,
    fun s hne hs => ?_⟩
  exact hnone s ((List.mem_tails s _).2 hs) hne

theorem call_behind_head_lowStatePage :
    FirstHead lowStatePage "import a\n".toList "export function APage() \x7b".toList
      " // a\n  const [x] = f();\n".toList
    ∧ hookSlot lowStatePage = .ok (.line 2 2)
    ∧ ("import a\n".toList ++ "export function APage() \x7b".toList).count '\n' < 2
    ∧ hasFragment lowStatePage .hook "home".toList = false
    ∧ ∃ x y, " // a\n  const [x] = f();\n".toList = x ++ '\n' :: y
      ∧ Page.add lowStatePage .hook "home".toList
        = ("import a\n".toList ++ ("export function APage() \x7b".toList
          ++ (x ++ '\n' :: (Kind.hook.rows 2 "home".toList ++ y))), .added)
      ∧ HeadLine (Page.add lowStatePage .hook "home".toList).1
          (("import a\n".toList ++ "export function APage() \x7b".toList).count '\n') := by
  have hslot : hookSlot lowStatePage = .ok (.line 2 2) := by decide +kernel
  have hno : hasFragment lowStatePage .hook "home".toList = false := by decide +kernel
  refine ⟨firstHead_lowStatePage, hslot, by decide, hno, ?_⟩
  exact (call_behind_head firstHead_lowStatePage hslot).2.2 (by decide) _ hno

/-- A page whose first line opens the page function and takes a state apart. The hook call
    goes above that line. -/
theorem call_at_head :
    let page : Text := "export function APage() \x7b const [x] = f();\n  const [y] = g();\n".toList
    HeadLine page 0 ∧ hookSlot page = .ok (.line 0 0)
    ∧ Page.add page .hook "home".toList = (hookLine "home".toList ++ '\n' :: page, .added) := by
  refine ⟨pageLine_eq_some_iff.1 (by decide +kernel), by decide +kernel, by decide +kernel⟩

end HelpWiring
