import HelpWiring.Text.Lines
import HelpWiring.Text.Ranges

/-!
# Blank Characters

White space as Unicode has it: the property `White_Space`, twenty-five
characters. It decides what indents a line, what may stand between the parts
of a page's closing lines, and which names count as empty. The zero width
space and the byte order mark are not in it.

## Main definitions

* `isBlank`: The property `White_Space`.
* `Text.isAllBlank`: A text with nothing to see in it.
* `Text.indent`: How many blanks a line starts with.
-/

namespace HelpWiring

/-- The ranges of `White_Space`. -/
def blankRanges : Text.Ranges :=
  [(0x9, 0xD), (0x20, 0x20), (0x85, 0x85), (0xA0, 0xA0), (0x1680, 0x1680), (0x2000, 0x200A),
   (0x2028, 0x2029), (0x202F, 0x202F), (0x205F, 0x205F), (0x3000, 0x3000)]

/-- The property `White_Space`. -/
def isBlank (c : Char) : Bool := Text.Ranges.holds c blankRanges

namespace Text

/-- Whether a text is empty once blanks are trimmed from both ends. -/
def isAllBlank (t : Text) : Bool := t.all isBlank

/-- How many blanks a line starts with. -/
def indent (line : Text) : Nat := (line.takeWhile isBlank).length

end Text

end HelpWiring
