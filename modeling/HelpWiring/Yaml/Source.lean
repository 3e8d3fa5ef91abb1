import HelpWiring.Text.Lines

/-!
# The Characters of a YAML Text

Reading YAML depends on where characters stand: indentation is a column, a
key has to sit on one line, and a document marker counts only at the start of
a line. So a text is first turned into placed characters, glyphs, and
everything after that is a walk along a list of glyphs, with no position to
carry. Columns count characters. How far apart two glyphs are counts octets,
because that is what the length of a key is limited in.

Placing does two more things. It refuses a text with a character that YAML
does not allow, and it makes one line feed out of each line break that YAML
treats as one: the line feed, the carriage return, the two together, and the
next line character. The line and paragraph separators are breaks too, but
they keep their identity.

A byte order mark is a character like any other, with a column of its own. The
only thing that sets it apart is that it may stand in front of a line.

## Main definitions

* `Glyph`: A character with its place.
* `Source`: What is left to read.
* `Source.ofText?`: The glyphs of a text.
* `isBreak`, `isGap`: Line breaks, and blanks or line breaks.
* `Glyph.opensLine`: A byte order mark in front of a line.
* `Source.endsWord`: A blank, a line break or the end comes next.
* `Source.isMarker`: A document marker comes next.
-/

namespace HelpWiring

namespace Yaml

/-- A character and its place: how many octets of UTF-8, lines, and characters
    of its line come before it. -/
structure Glyph where
  char : Char
  offset : Nat
  line : Nat
  column : Nat
  deriving DecidableEq

/-- What is left to read. -/
abbrev Source := List Glyph

/-- Whether YAML allows a character in a text. -/
def isAllowed (c : Char) : Bool :=
  let n := c.toNat
  n == 0x9 || n == 0xA || n == 0xD || (0x20 ≤ n && n ≤ 0x7E) || n == 0x85
    || (0xA0 ≤ n && n ≤ 0xD7FF) || (0xE000 ≤ n && n ≤ 0xFFFD) || 0x10000 ≤ n

/-- Whether a placed character ends its line. -/
def isBreak (c : Char) : Bool := c == '\n' || c == '\u2028' || c == '\u2029'

/-- Whether a character is a space or a tab. -/
def isSpacing (c : Char) : Bool := c == ' ' || c == '\t'

/-- Whether a character separates words. -/
def isGap (c : Char) : Bool := isSpacing c || isBreak c

/-- The characters of a text with their places, from a given place on. -/
def place (offset line column : Nat) : Text → Source
  | [] => []
  | '\r' :: '\n' :: rest => ⟨'\n', offset, line, column⟩ :: place (offset + 2) (line + 1) 0 rest
  | c :: rest =>
    if c == '\r' || c == '\u0085' then
      ⟨'\n', offset, line, column⟩ :: place (offset + c.utf8Size) (line + 1) 0 rest
    else if isBreak c then
      ⟨c, offset, line, column⟩ :: place (offset + c.utf8Size) (line + 1) 0 rest
    else ⟨c, offset, line, column⟩ :: place (offset + c.utf8Size) line (column + 1) rest

/-- Whether a glyph is a byte order mark in front of a line. -/
def Glyph.opensLine (g : Glyph) : Bool := g.column == 0 && g.char == '\uFEFF'

namespace Source

/-- The glyphs of a text, if YAML allows all its characters. -/
def ofText? (t : Text) : Option Source :=
  if t.all isAllowed then some (place 0 0 0 t) else none

/-- Whether a blank, a line break or the end of the text comes next. -/
def endsWord : Source → Bool
  | [] => true
  | g :: _ => isGap g.char

/-- Whether the next glyph is one of some characters. -/
def startsWithOneOf (chars : Text) : Source → Bool
  | [] => false
  | g :: _ => chars.contains g.char

/-- Three of a character at the start of a line, standing alone. -/
def isMarkerOf (c : Char) : Source → Bool
  | a :: b :: d :: rest =>
    a.column == 0 && a.char == c && b.char == c && d.char == c && endsWord rest
  | _ => false

/-- Whether a document marker comes next, opening or closing. -/
def isMarker (s : Source) : Bool := isMarkerOf '-' s || isMarkerOf '.' s

/-- The glyphs in front whose characters pass a test, as text, and the rest. -/
def takeText (test : Char → Bool) (s : Source) : Text × Source :=
  ((s.takeWhile fun g => test g.char).map Glyph.char, s.dropWhile fun g => test g.char)

/-- The rest after spaces and tabs. -/
def afterSpacing (s : Source) : Source := s.dropWhile fun g => isSpacing g.char

/-- The rest after a comment, if one comes next. -/
def afterComment : Source → Source
  | [] => []
  | g :: rest => if g.char == '#' then rest.dropWhile fun h => !isBreak h.char else g :: rest

/-- The rest of the text once its line is over: blanks and a comment may come
    first, anything else is refused. -/
def afterLine? (s : Source) : Option Source :=
  match afterComment (afterSpacing s) with
  | [] => some []
  | g :: rest => if isBreak g.char then some rest else none

end Source

end Yaml

end HelpWiring
