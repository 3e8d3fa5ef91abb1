import HelpWiring.Page.Fragment
import HelpWiring.Text.Blank
import HelpWiring.Text.Word

/-!
# Slots

Where a fragment belongs in a page. Nothing is parsed: each fragment has a
shape of text that it goes next to, its anchor, and a page without that shape
has no slot for the fragment.

* The imports go under the first line that starts with `import`.
* The hook call goes in front of the first line of the page function that
  calls a hook or takes a state apart, looked for on twenty lines counted from
  the one that opens the function. It takes that line's indentation.
* The popup element goes in front of the blanks that lead to the first closing
  `div` followed by the end of the returned element and of the function.

Names are runs of word characters and blanks are runs of blank characters, and
in each shape the character after a run is of another sort. A run can therefore
be read as far as it goes: no shorter reading could succeed where that one
fails.

Slots between lines are counted in lines, slots inside a line in the octets of
the text's UTF-8 form.

## Main definitions

* `Slot`: A place for a fragment.
* `AnchorFault`: Why there is none.
* `opensPage`, `isHookSite`, `closesPage`: The shapes.
* `findSlot`: The slot of a fragment in a page.
-/

namespace HelpWiring

namespace Text

/-- What is left of a text after a piece that it starts with. -/
def after? (piece t : Text) : Option Text :=
  if piece.isPrefixOf t then some (t.drop piece.length) else none

/-- What is left of a text after a run of blanks, at least one. -/
def afterBlanks? : Text → Option Text
  | [] => none
  | c :: rest => if isBlank c then some (rest.dropWhile isBlank) else none

/-- A run of word characters, at least one, and what is left after it. -/
def word? (t : Text) : Option (Text × Text) :=
  match t.takeWhile isWord with
  | [] => none
  | name => some (name, t.dropWhile isWord)

end Text

/-- A place for a fragment. -/
inductive Slot
  /-- In front of a line, with some spaces in front of each new line. -/
  | line (index indent : Nat)
  /-- After some number of octets. -/
  | offset (octets : Nat)
  deriving DecidableEq

/-- Why a page has no slot for a fragment. -/
inductive AnchorFault
  /-- No line starts with `import`. -/
  | noImportLine
  /-- No page function is exported. -/
  | noPageFunction
  /-- The page function starts without a hook call or a state. -/
  | noHookSite
  /-- Nothing closes the page. -/
  | noClosingBlock
  deriving DecidableEq

namespace AnchorFault

/-- The reason in words. -/
def message : AnchorFault → Text
  | noImportLine => "No imports found".toList
  | noPageFunction => "Component function not found".toList
  | noHookSite => "Could not find insertion point for hook".toList
  | noClosingBlock => "Could not find closing pattern".toList

/-- The reason as one word. -/
def name : AnchorFault → Text
  | noImportLine => "no_import_line".toList
  | noPageFunction => "no_page_function".toList
  | noHookSite => "no_hook_site".toList
  | noClosingBlock => "no_closing_block".toList

end AnchorFault

/-- Whether a line is an import, from its first character on. -/
def isImportLine (line : Text) : Bool := "import ".toList.isPrefixOf line

/-- Whether a text starts with the head of a page function: the export of a
    function without parameters whose name is longer than `Page` and ends in
    it. -/
def opensPage (t : Text) : Bool :=
  match Text.after? "export function ".toList t with
  | none => false
  | some t => match Text.word? t with
    | none => false
    | some (name, rest) =>
      decide (4 < name.length) && "Page".toList.isSuffixOf name
        && "() \x7b".toList.isPrefixOf rest

/-- Whether a text starts with a constant that a hook call defines. -/
def callsHook (t : Text) : Bool :=
  match (Text.after? "const ".toList t).bind Text.word? with
  | none => false
  | some (_, rest) => match (Text.after? " = use".toList rest).bind Text.word? with
    | none => false
    | some (_, rest) => ['('].isPrefixOf rest

/-- Whether a text starts with constants that are taken out of a state. -/
def takesState (t : Text) : Bool := ((Text.after? "const [".toList t).bind Text.word?).isSome

/-- Whether the hook call can go in front of a line. -/
def isHookSite (line : Text) : Bool := Text.someSuffix (fun t => callsHook t || takesState t) line

/-- How many lines of the page function are searched, the one that opens it
    included. -/
def hookReach : Nat := 20

/-- Whether a text starts with the blanks and the lines that close a page. -/
def closesPage (t : Text) : Bool :=
  ((((((Text.afterBlanks? t).bind (Text.after? "</div>".toList)).bind
    Text.afterBlanks?).bind (Text.after? ");".toList)).bind
      Text.afterBlanks?).bind (Text.after? ['\x7d'])).isSome

/-- The line of the first page function, when the text starts in line `line`. The
    head of a function is on one line. -/
def pageLineFrom (line : Nat) : Text → Option Nat
  | [] => none
  | c :: rest =>
    if opensPage (c :: rest) then some line
    else pageLineFrom (if c = '\n' then line + 1 else line) rest

/-- The line that opens the first page function. -/
def pageLine (page : Text) : Option Nat := pageLineFrom 0 page

/-- How many octets lead to the closing lines, when `octets` lead to the text. -/
def closingFrom (octets : Nat) : Text → Option Nat
  | [] => none
  | c :: rest =>
    if closesPage (c :: rest) then some octets else closingFrom (octets + c.utf8Size) rest

/-- The slot of the imports. -/
def importSlot (page : Text) : Except AnchorFault Slot :=
  match page.lines.findIdx? isImportLine with
  | some i => .ok (.line (i + 1) 0)
  | none => .error .noImportLine

/-- The slot of the hook call. -/
def hookSlot (page : Text) : Except AnchorFault Slot :=
  match pageLine page with
  | none => .error .noPageFunction
  | some start =>
    -- the opening line is in the window: a page may call its hook right there
    let window := (page.lines.zipIdx.drop start).take hookReach
    match window.find? fun (line, _) => isHookSite line with
    | some (line, index) => .ok (.line index line.indent)
    | none => .error .noHookSite

/-- The slot of the popup element. -/
def popupSlot (page : Text) : Except AnchorFault Slot :=
  match closingFrom 0 page with
  | some octets => .ok (.offset octets)
  | none => .error .noClosingBlock

/-- The slot of a fragment. -/
def findSlot (page : Text) : Kind → Except AnchorFault Slot
  | .imports => importSlot page
  | .hook => hookSlot page
  | .component => popupSlot page

end HelpWiring
