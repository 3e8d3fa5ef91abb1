import HelpWiring.Yaml.Source

/-!
# Scalars

The four ways to write a text in YAML: plain, in single quotes, in double
quotes, and as an indented block. Each reader walks the glyphs once and gives
the text together with what is left to read, or nothing if the text is not
well formed.

All but the block share one rule. Between two words stands a gap. A gap on one
line is kept as it is; a gap over a line break is folded, so a single line
feed becomes a space and further line breaks stay. A line or paragraph
separator is never folded away. `Gap` holds a gap as it is read, and
`Gap.folded` is the rule.

The readers collect their characters back to front and turn them around at the
end.

## Main definitions

* `Gap`: Blanks and line breaks between two words.
* `Gap.folded`: What a gap stands for.
* `plainScalar`: A scalar without quotes.
* `singleQuoted`, `doubleQuoted`: A quoted scalar, after its opening quote.
* `blockScalar`: An indented scalar, after its opening character.
-/

namespace HelpWiring

namespace Yaml

/-- The blanks and line breaks between two words, back to front. -/
inductive Gap
  /-- Blanks on one line. -/
  | spaces (blanks : Text)
  /-- A gap over line breaks: the first break, unless it was escaped, and the
      breaks after it. -/
  | broken (first : Option Char) (more : Text)
  deriving DecidableEq

namespace Gap

/-- The gap between two characters of one word. -/
def empty : Gap := .spaces []

/-- Whether the gap holds a line break. -/
def isBroken : Gap → Bool
  | spaces _ => false
  | broken _ _ => true

/-- One more blank or line break. Once a line is broken, blanks are
    indentation and do not count. -/
def push (c : Char) : Gap → Gap
  | spaces blanks => if isBreak c then broken (some c) [] else spaces (c :: blanks)
  | broken first more => if isBreak c then broken first (c :: more) else broken first more

/-- What a gap stands for, back to front. -/
def folded : Gap → Text
  | spaces blanks => blanks
  | broken none more => more
  | broken (some first) more =>
    if first == '\n' then (if more.isEmpty then [' '] else more) else more ++ [first]

end Gap

/-- Whether a plain scalar ends in front of the next glyph, given the gap read
    so far: at a document marker, at a comment, or at a line that is indented
    too little. -/
def endsAfterGap (inFlow : Bool) (indent : Nat) (gap : Gap) (g : Glyph) (rest : Source) : Bool :=
  gap != .empty && (g.char == '#' || Source.isMarker (g :: rest))
    || gap.isBroken && !inFlow && decide (g.column < indent)

/-- Reads a plain scalar. The answer says also whether a line break was read
    after its last word. -/
def plainScalar (inFlow : Bool) (indent : Nat) (read : Text) (gap : Gap) :
    Source → Option (Text × Bool × Source)
  | [] => some (read.reverse, gap.isBroken, [])
  | g :: rest =>
    if isGap g.char then
      -- a tab cannot stand in for indentation
      if gap.isBroken && g.char == '\t' && decide (g.column < indent) then none
      else plainScalar inFlow indent read (gap.push g.char) rest
    else if endsAfterGap inFlow indent gap g rest then
      some (read.reverse, gap.isBroken, g :: rest)
    else if inFlow && g.char == ':' && Source.startsWithOneOf ",?[]\x7b\x7d".toList rest then none
    else if (g.char == ':' && Source.endsWord rest)
        || (inFlow && ",[]\x7b\x7d".toList.contains g.char) then
      some (read.reverse, gap.isBroken, g :: rest)
    else plainScalar inFlow indent (g.char :: (gap.folded ++ read)) .empty rest

/-- Reads a single quoted scalar, in which a quote is written twice. `quoteSeen`
    says that the glyph before was a quote of which it is not yet known whether
    it is the closing one. -/
def singleQuoted (read : Text) (gap : Gap) (quoteSeen : Bool) : Source → Option (Text × Source)
  | [] => if quoteSeen then some (read.reverse, []) else none
  | g :: rest =>
    if quoteSeen then
      if g.char == '\'' then singleQuoted ('\'' :: read) .empty false rest
      else some (read.reverse, g :: rest)
    else if isGap g.char then singleQuoted read (gap.push g.char) false rest
    else if gap.isBroken && Source.isMarker (g :: rest) then none
    else if g.char == '\'' then singleQuoted (gap.folded ++ read) .empty true rest
    else singleQuoted (g.char :: (gap.folded ++ read)) .empty false rest

/-- Where a double quoted scalar stands in an escape. -/
inductive Escape
  /-- Not in one. -/
  | outside
  /-- After the backslash. -/
  | begun
  /-- In a code point: how many digits follow the next one, and the value so
      far. -/
  | digits (more : Nat) (value : Nat)
  deriving DecidableEq

/-- The characters that a letter after a backslash stands for. -/
def escapedChar? (c : Char) : Option Char :=
  match c with
  | '0' => some '\x00'
  | 'a' => some '\x07'
  | 'b' => some '\x08'
  | 't' | '\t' => some '\t'
  | 'n' => some '\n'
  | 'v' => some '\x0b'
  | 'f' => some '\x0c'
  | 'r' => some '\r'
  | 'e' => some '\x1b'
  | ' ' => some ' '
  | '"' => some '"'
  | '/' => some '/'
  | '\\' => some '\\'
  | 'N' => some '\u0085'
  | '_' => some '\u00a0'
  | 'L' => some '\u2028'
  | 'P' => some '\u2029'
  | _ => none

/-- How many digits follow a letter that starts a code point. -/
def codePointDigits? (c : Char) : Option Nat :=
  match c with
  | 'x' => some 2
  | 'u' => some 4
  | 'U' => some 8
  | _ => none

/-- The value of a hexadecimal digit. -/
def hexDigit? (c : Char) : Option Nat :=
  if '0' ≤ c ∧ c ≤ '9' then some (c.toNat - '0'.toNat)
  else if 'a' ≤ c ∧ c ≤ 'f' then some (c.toNat - 'a'.toNat + 10)
  else if 'A' ≤ c ∧ c ≤ 'F' then some (c.toNat - 'A'.toNat + 10)
  else none

/-- Reads a double quoted scalar. An escaped line break is left out together
    with the indentation after it. -/
def doubleQuoted (read : Text) (gap : Gap) : Escape → Source → Option (Text × Source)
  | _, [] => none
  | .outside, g :: rest =>
    if isGap g.char then doubleQuoted read (gap.push g.char) .outside rest
    else if gap.isBroken && Source.isMarker (g :: rest) then none
    else if g.char == '"' then some ((gap.folded ++ read).reverse, rest)
    else if g.char == '\\' then doubleQuoted (gap.folded ++ read) .empty .begun rest
    else doubleQuoted (g.char :: (gap.folded ++ read)) .empty .outside rest
  | .begun, g :: rest =>
    if isBreak g.char then doubleQuoted read (.broken none []) .outside rest
    else match codePointDigits? g.char with
      | some n => doubleQuoted read gap (.digits (n - 1) 0) rest
      | none => match escapedChar? g.char with
        | some c => doubleQuoted (c :: read) gap .outside rest
        | none => none
  | .digits more value, g :: rest =>
    match hexDigit? g.char with
    | none => none
    | some d =>
      let value := value * 16 + d
      match more with
      | m + 1 => doubleQuoted read gap (.digits m value) rest
      | 0 => if value.isValidChar then doubleQuoted (Char.ofNat value :: read) gap .outside rest
        else none

/-- What becomes of the line breaks at the end of a block. -/
inductive Chomp
  /-- None is kept. -/
  | strip
  /-- One is kept. -/
  | clip
  /-- All are kept. -/
  | keep
  deriving DecidableEq

/-- A block scalar as far as it is read. -/
structure Block where
  /-- The column its lines start at, once known. -/
  indent : Option Nat
  /-- The deepest column reached by the lines in front of the first word. -/
  deepest : Nat
  /-- The text so far, back to front. -/
  read : Text
  /-- The line break after the last line. -/
  lead : Option Char
  /-- The line breaks of empty lines after that, back to front. -/
  more : Text
  /-- Whether the last line starts with a blank. -/
  spaced : Bool

namespace Block

/-- What stands between the last line and a new one, back to front. A folded
    block joins two lines that start with a word. -/
def joint (literal newSpaced : Bool) (b : Block) : Text :=
  if !literal && b.lead == some '\n' && !b.spaced && !newSpaced then
    if b.more.isEmpty then [' '] else b.more
  else b.more ++ b.lead.toList

/-- Opens a new line with its first character. -/
def openLine (literal : Bool) (c : Char) (b : Block) : Block :=
  { b with
    read := c :: (b.joint literal (isSpacing c) ++ b.read)
    lead := none
    more := []
    spaced := isSpacing c }

/-- The text of a block that has been read to its end. -/
def text (chomp : Chomp) (b : Block) : Text :=
  match chomp with
  | .strip => b.read.reverse
  | .clip => (b.lead.toList ++ b.read).reverse
  | .keep => (b.more ++ b.lead.toList ++ b.read).reverse

/-- Whether a column still belongs to the indentation. -/
def indents (b : Block) (column : Nat) : Bool :=
  match b.indent with
  | none => true
  | some k => decide (column < k)

/-- Reads the lines of a block. The first line with a word on it settles the
    indentation, which is at least `least`. -/
def readLines (literal : Bool) (least : Nat) (b : Block) (inLine : Bool) :
    Source → Option (Block × Source)
  | [] => some (b, [])
  | g :: rest =>
    if inLine then
      if isBreak g.char then readLines literal least { b with lead := some g.char } false rest
      else readLines literal least { b with read := g.char :: b.read } true rest
    else if isBreak g.char then
      readLines literal least
        { b with more := g.char :: b.more, deepest := max b.deepest g.column } false rest
    else if g.char == ' ' && b.indents g.column then readLines literal least b false rest
    else if g.char == '\t' && b.indents g.column then none
    else
      let k := b.indent.getD (max (max b.deepest g.column) least)
      let b := { b with indent := some k }
      if g.column == k then readLines literal least (b.openLine literal g.char) true rest
      else some (b, g :: rest)

end Block

/-- The value of a digit that counts columns. -/
def indentDigit? (c : Char) : Option Nat := if c.isDigit then some (c.toNat - '0'.toNat) else none

/-- The chomping sign. -/
def chompSign? (c : Char) : Option Chomp :=
  if c == '+' then some .keep else if c == '-' then some .strip else none

/-- Reads the signs after the opening character of a block, in either order: how
    to end it, and by how many columns it is indented, zero if not said. -/
def blockHeader : Source → Chomp × Option Nat × Source
  | [] => (.clip, none, [])
  | g :: rest =>
    match chompSign? g.char, indentDigit? g.char with
    | some chomp, _ =>
      match rest with
      | [] => (chomp, none, [])
      | h :: more => match indentDigit? h.char with
        | some n => (chomp, some n, more)
        | none => (chomp, none, rest)
    | none, some n =>
      match rest with
      | [] => (.clip, some n, [])
      | h :: more => match chompSign? h.char with
        | some chomp => (chomp, some n, more)
        | none => (.clip, some n, rest)
    | none, none => (.clip, none, g :: rest)

/-- Reads a block scalar inside a mapping at column `parent`, if any. -/
def blockScalar (literal : Bool) (parent : Option Nat) (s : Source) : Option (Text × Source) :=
  let (chomp, step, rest) := blockHeader s
  if step == some 0 then none
  else match Source.afterLine? rest with
    | none => none
    | some rest =>
      let least := match parent with
        | none => 1
        | some c => c + 1
      let start : Block :=
        { indent := step.map (parent.getD 0 + ·), deepest := 0, read := [], lead := none,
          more := [], spaced := false }
      (start.readLines literal least false rest).map fun (b, rest) => (b.text chomp, rest)

end Yaml

end HelpWiring
