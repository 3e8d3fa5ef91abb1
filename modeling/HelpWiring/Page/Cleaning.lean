import HelpWiring.Page.Fragment

/-!
# Cleaning a Page

A page that was wired by hand and by tool can hold an import line twice. Of
the lines that mention the hook's import, and of those that mention the
popup's, the first one stays. The semicolon does not count, so a line with a
remark in place of it is recognised too. All other lines stay where they are.

A line may mention both imports. It stays only if it repeats neither, but a
line that goes because of the popup still counts as a mention of the hook.

## Main definitions

* `keepFirst`: The lines that stay, given what was seen before them.
* `Page.clean`: A page without repeated imports.
-/

namespace HelpWiring

/-- The lines that stay, given whether the hook's import and the popup's were
    seen before them. -/
def keepFirst (seenHook seenPopup : Bool) : List Text → List Text
  | [] => []
  | line :: more =>
    let hook := line.mentions hookImport
    let popup := line.mentions popupImport
    if hook && seenHook then keepFirst seenHook seenPopup more
    -- the hook of a line that goes here has been seen all the same
    else if popup && seenPopup then keepFirst (seenHook || hook) seenPopup more
    else line :: keepFirst (seenHook || hook) (seenPopup || popup) more

/-- A page without repeated imports. -/
def Page.clean (page : Text) : Text := Text.unlines (keepFirst false false page.lines)

end HelpWiring
