import HelpWiring.Yaml.Scalar

/-!
# Tokens

The marks and scalars of a YAML text in their order, cut out of the glyphs one
by one. This library reads one shape of document only, a mapping from scalars
to scalars, so a mark that no such document can hold ends the reading at once:
a sequence entry, a sequence in brackets, or a mapping inside a mapping.

The one difficulty is the key. In `name: text` nothing in front of `name` says
that it is a key; that shows only at the colon, and by then the tokens of the
key have been read. `Reading` therefore holds the tokens since the last place
where a key could have started apart from the rest. At a colon they become the
key, with the mark for it put in front; at the next place where a key could
start they join the tokens before them. Either way tokens are only ever added
at the end.

A key has to be over on its line, and within 1024 octets of UTF-8. A word at the
column of the mapping has to be a key, because nothing else can stand there.

## Main definitions

* `Token`: A mark or a scalar.
* `Reading`: What is known after some tokens.
* `Reading.next?`: Reads one token.
* `tokens?`: All tokens of a text.
-/

namespace HelpWiring

namespace Yaml

/-- A mark or a scalar. -/
inductive Token
  /-- The version that a text declares. -/
  | version (major minor : Nat)
  /-- A tag handle that a text declares. -/
  | handle (name : Text)
  | documentStart
  | documentEnd
  /-- An indented mapping opens or closes. -/
  | blockStart
  | blockEnd
  /-- A brace. -/
  | flowStart
  | flowEnd
  /-- A comma. -/
  | separator
  | key
  | value
  | anchor (name : Text)
  | reference (name : Text)
  /-- A tag, given by its handle, which is empty if the tag is spelt out. -/
  | tag (handle : Text)
  | scalar (text : Text)
  deriving DecidableEq

/-- Whether a character can be part of an anchor or a tag handle. -/
def isNameChar (c : Char) : Bool := c.isAlphanum || c == '_' || c == '-'

/-- Whether a character can be part of a tag, the percent sign aside. -/
def isTagChar (spelt : Bool) (c : Char) : Bool :=
  isNameChar c || ";/?:@&=+$.!~*'()".toList.contains c || (spelt && ",[]".toList.contains c)

/-- How many octets a UTF-8 sequence with this first octet has. -/
def sequenceLength? (octet : Nat) : Option Nat :=
  if octet < 0x80 then some 1
  else if octet / 32 == 6 then some 2
  else if octet / 16 == 14 then some 3
  else if octet / 8 == 30 then some 4
  else none

/-- Reads the characters of a tag and says how many there are. A percent sign
    with two digits stands for an octet, and octets have to make up UTF-8
    sequences; `owed` octets are missing from the one begun. -/
def tagChars (spelt : Bool) (count owed : Nat) : Source → Option (Nat × Source)
  | [] => if owed == 0 then some (count, []) else none
  | g :: rest =>
    if g.char == '%' then
      match rest with
      | a :: b :: more =>
        match hexDigit? a.char, hexDigit? b.char with
        | some x, some y =>
          let octet := x * 16 + y
          if owed == 0 then
            match sequenceLength? octet with
            | some n => tagChars spelt (count + 1) (n - 1) more
            | none => none
          else if octet / 64 == 2 then tagChars spelt count (owed - 1) more
          else none
        | _, _ => none
      | _ => none
    else if owed != 0 then none
    else if isTagChar spelt g.char then tagChars spelt (count + 1) 0 rest
    else some (count, g :: rest)

/-- Reads a tag up to its end, which must not be empty given how much of it is
    already read. -/
def tagRest? (spelt : Bool) (already : Nat) (s : Source) : Option Source :=
  match tagChars spelt already 0 s with
  | some (0, _) => none
  | some (_, rest) => some rest
  | none => none

/-- Reads a tag after its exclamation mark and gives its handle. -/
def tagBody? (s : Source) : Option (Text × Source) :=
  if Source.startsWithOneOf ['<'] s then
    match tagRest? true 0 s.tail with
    | some (g :: rest) => if g.char == '>' then some ([], rest) else none
    | _ => none
  else
    let (name, rest) := Source.takeText isNameChar s
    if Source.startsWithOneOf ['!'] rest then
      (tagRest? false 0 rest.tail).map fun rest => ('!' :: (name ++ ['!']), rest)
    else
      -- the exclamation mark alone is a tag too
      match tagChars false (name.length + 1) 0 rest with
      | some (1, rest) => some ([], rest)
      | some (_, rest) => some (['!'], rest)
      | none => none

/-- Reads a tag after its exclamation mark. A blank has to follow it, or a comma
    in braces. -/
def tag? (inFlow : Bool) (s : Source) : Option (Text × Source) :=
  (tagBody? s).filter fun (_, rest) =>
    Source.endsWord rest || (inFlow && Source.startsWithOneOf [','] rest)

/-- Reads the name of an anchor or an alias. -/
def anchorName? (s : Source) : Option (Text × Source) :=
  let (name, rest) := Source.takeText isNameChar s
  if !name.isEmpty
      && (Source.endsWord rest || Source.startsWithOneOf "?:,]\x7d%@`".toList rest) then
    some (name, rest)
  else none

/-- Reads a number of at most nine digits. -/
def versionNumber? (s : Source) : Option (Nat × Source) :=
  let (digits, rest) := Source.takeText Char.isDigit s
  if digits.isEmpty || decide (9 < digits.length) then none
  else some (digits.foldl (fun n c => n * 10 + (c.toNat - '0'.toNat)) 0, rest)

/-- Reads the two numbers of a version. -/
def version? (s : Source) : Option (Token × Source) := do
  let (major, rest) ← versionNumber? (Source.afterSpacing s)
  if Source.startsWithOneOf ['.'] rest then
    let (minor, rest) ← versionNumber? rest.tail
    return (.version major minor, rest)
  else none

/-- Reads the handle that a directive declares: one exclamation mark, two, or a
    name between two. -/
def declaredHandle? (s : Source) : Option (Text × Source) :=
  if Source.startsWithOneOf ['!'] s then
    let (name, rest) := Source.takeText isNameChar s.tail
    if Source.startsWithOneOf ['!'] rest then some ('!' :: (name ++ ['!']), rest.tail)
    else if name.isEmpty then some (['!'], rest)
    else none
  else none

/-- Reads a handle and what it stands for. -/
def handle? (s : Source) : Option (Token × Source) := do
  let (name, rest) ← declaredHandle? (Source.afterSpacing s)
  if Source.startsWithOneOf [' ', '\t'] rest then
    let rest ← tagRest? true 0 (Source.afterSpacing rest)
    if Source.endsWord rest then return (.handle name, rest) else none
  else none

/-- Reads a directive after its percent sign, its line included. -/
def directive? (s : Source) : Option (Token × Source) := do
  let (name, rest) := Source.takeText isNameChar s
  if !Source.endsWord rest then none
  else
    let (t, rest) ←
      if name == "YAML".toList then version? rest
      else if name == "TAG".toList then handle? rest
      else none
    let rest ← Source.afterLine? rest
    return (t, rest)

/-- Skips blanks, comments, line breaks and byte order marks in front of lines. A
    tab counts as blank where no key may start. A line break makes room for a key,
    except in braces. -/
def skipGap (inFlow keyAllowed inComment : Bool) : Source → Bool × Source
  | [] => (keyAllowed, [])
  | g :: rest =>
    if isBreak g.char then skipGap inFlow (keyAllowed || !inFlow) false rest
    else if inComment then skipGap inFlow keyAllowed true rest
    else if g.opensLine || g.char == ' ' || (g.char == '\t' && (inFlow || !keyAllowed)) then
      skipGap inFlow keyAllowed false rest
    else if g.char == '#' then skipGap inFlow keyAllowed true rest
    else (keyAllowed, g :: rest)

/-- Whether a plain scalar can start with a glyph. -/
def startsPlain (inFlow : Bool) (g : Glyph) (rest : Source) : Bool :=
  !("-?:,[]\x7b\x7d#&*!|>'\"%@`".toList.contains g.char || isGap g.char)
    || (g.char == '-' && !Source.startsWithOneOf [' ', '\t'] rest)
    || (!inFlow && (g.char == '?' || g.char == ':') && !Source.endsWord rest)

/-- A place where a key may have started. -/
structure Candidate where
  line : Nat
  offset : Nat
  column : Nat
  /-- Nothing but a key can stand here. -/
  required : Bool

/-- Whether a candidate can still be the key of a colon: the two stand on one
    line, at most 1024 octets apart. -/
def Candidate.reaches (c : Candidate) (colon : Glyph) : Bool :=
  c.line == colon.line && decide (colon.offset ≤ c.offset + 1024)

/-- What is known after some tokens. -/
structure Reading where
  /-- The tokens in front of the candidate, the last one first. -/
  settled : List Token
  /-- The tokens since the candidate, the last one first. -/
  held : List Token
  candidate : Option Candidate
  /-- Whether a key may start at the next token. -/
  keyAllowed : Bool
  /-- The column of the indented mapping that is open. -/
  indent : Option Nat
  /-- Whether a mapping in braces is open. -/
  inFlow : Bool

namespace Reading

/-- Before the first token. -/
def start : Reading := ⟨[], [], none, true, none, false⟩

/-- All tokens so far, the last one first. -/
def tokens (r : Reading) : List Token := r.held ++ r.settled

/-- One more token. -/
def emit (t : Token) (r : Reading) : Reading :=
  match r.candidate with
  | some _ => { r with held := t :: r.held }
  | none => { r with settled := t :: r.settled }

/-- Gives up the candidate, unless it had to be a key. -/
def settle? (r : Reading) : Option Reading :=
  match r.candidate with
  | none => some r
  | some c =>
    if c.required then none
    else some { r with settled := r.tokens, held := [], candidate := none }

/-- Makes the place of a glyph the candidate, if a key may start there. -/
def nominate? (g : Glyph) (r : Reading) : Option Reading :=
  if r.keyAllowed then
    r.settle?.map fun r =>
      let required := !r.inFlow && r.indent == some g.column
      { r with candidate := some ⟨g.line, g.offset, g.column, required⟩ }
  else some r

/-- Closes the indented mapping if it is to the right of a column. -/
def closeTo (column : Nat) (r : Reading) : Reading :=
  match r.indent with
  | some c =>
    if !r.inFlow && decide (column < c) then { r.emit .blockEnd with indent := none } else r
  | none => r

/-- Closes the indented mapping in any case. -/
def closeAll (r : Reading) : Reading :=
  match r.indent with
  | some _ => if r.inFlow then r else { r.emit .blockEnd with indent := none }
  | none => r

/-- Opens an indented mapping at a column, unless one is open there. A mapping
    inside a mapping is refused. -/
def openAt? (column : Nat) (r : Reading) : Option Reading :=
  if r.inFlow then some r
  else match r.indent with
    | none => some { r.emit .blockStart with indent := some column }
    | some c => if c < column then none else some r

/-- A colon: the held tokens become the key, or there is none in front of it. -/
def colon? (g : Glyph) (r : Reading) : Option Reading :=
  match r.candidate.filter (Candidate.reaches · g) with
  | some c =>
    -- the mapping opens in front of its first key, so the held tokens wait
    let before : Reading := { r with held := [], candidate := none }
    (before.openAt? c.column).map fun opened =>
      { opened with
        settled := .value :: (r.held ++ .key :: opened.settled)
        keyAllowed := false }
  | none =>
    if r.candidate.any (·.required) then none
    else if r.inFlow then some { r.emit .value with keyAllowed := false }
    else if !r.keyAllowed then none
    else (r.openAt? g.column).map fun r => { r.emit .value with keyAllowed := true }

/-- A question mark in front of a key. -/
def questionMark? (g : Glyph) (r : Reading) : Option Reading :=
  if !r.inFlow && !r.keyAllowed then none
  else do
    let r ← r.openAt? g.column
    let r ← r.settle?
    return { r.emit .key with keyAllowed := !r.inFlow }

/-- A document marker or a directive, in front of which every mapping is
    over. -/
def boundary? (t : Token) (r : Reading) : Option Reading := do
  let r ← r.closeAll.settle?
  return { r.emit t with keyAllowed := false }

/-- A scalar, an anchor, an alias or a tag at a glyph. -/
def word? (g : Glyph) (t : Token) (r : Reading) : Option Reading := do
  let r ← r.nominate? g
  return { r.emit t with keyAllowed := false }

/-- An opening brace. -/
def openBrace? (r : Reading) : Option Reading :=
  if r.inFlow || r.indent.isSome then none
  else r.settle?.map fun r => { r.emit .flowStart with keyAllowed := true, inFlow := true }

/-- A closing brace. -/
def closeBrace? (r : Reading) : Option Reading :=
  r.settle?.map fun r => { r.emit .flowEnd with keyAllowed := false, inFlow := false }

/-- A comma. -/
def comma? (r : Reading) : Option Reading :=
  r.settle?.map fun r => { r.emit .separator with keyAllowed := true }

/-- A block scalar that starts at a glyph. -/
def block? (g : Glyph) (rest : Source) (r : Reading) : Option (Reading × Source) := do
  let r ← r.settle?
  let (text, rest) ← blockScalar (g.char == '|') r.indent rest
  return ({ r.emit (.scalar text) with keyAllowed := true }, rest)

/-- A plain scalar that starts at a glyph. -/
def plain? (g : Glyph) (rest : Source) (r : Reading) : Option (Reading × Source) := do
  let indent := match r.indent with
    | none => 0
    | some c => c + 1
  let (text, broken, rest) ← plainScalar r.inFlow indent [] .empty (g :: rest)
  let r ← r.word? g (.scalar text)
  return ({ r with keyAllowed := broken }, rest)

/-- Reads one token that starts at a glyph. -/
def token? (r : Reading) (g : Glyph) (rest : Source) : Option (Reading × Source) :=
  let r := r.closeTo g.column
  -- directives and markers count at the start of a line only
  if g.column == 0 && g.char == '%' then do
    let (t, rest) ← directive? rest
    return (← r.boundary? t, rest)
  else if Source.isMarkerOf '-' (g :: rest) then
    (r.boundary? .documentStart).map (·, rest.drop 2)
  else if Source.isMarkerOf '.' (g :: rest) then
    (r.boundary? .documentEnd).map (·, rest.drop 2)
  -- marks of one character
  else if g.char == '\x7b' then r.openBrace?.map (·, rest)
  else if g.char == '\x7d' then r.closeBrace?.map (·, rest)
  else if g.char == ',' then r.comma?.map (·, rest)
  else if g.char == '[' || g.char == ']' || (g.char == '-' && Source.endsWord rest) then none
  else if g.char == '?' && (r.inFlow || Source.endsWord rest) then
    (r.questionMark? g).map (·, rest)
  else if g.char == ':' && (r.inFlow || Source.endsWord rest) then
    (r.colon? g).map (·, rest)
  -- words, the plain ones last because any other opening character is taken by then
  else if g.char == '*' then do
    let (name, rest) ← anchorName? rest
    return (← r.word? g (.reference name), rest)
  else if g.char == '&' then do
    let (name, rest) ← anchorName? rest
    return (← r.word? g (.anchor name), rest)
  else if g.char == '!' then do
    let (name, rest) ← tag? r.inFlow rest
    return (← r.word? g (.tag name), rest)
  else if !r.inFlow && (g.char == '|' || g.char == '>') then r.block? g rest
  else if g.char == '\'' then do
    let (text, rest) ← singleQuoted [] .empty false rest
    return (← r.word? g (.scalar text), rest)
  else if g.char == '"' then do
    let (text, rest) ← doubleQuoted [] .empty .outside rest
    return (← r.word? g (.scalar text), rest)
  else if startsPlain r.inFlow g rest then r.plain? g rest
  else none

/-- The tokens of a text that has been read to its end. -/
def finish? (r : Reading) : Option (List Token) :=
  r.closeAll.settle?.map fun r => r.tokens.reverse

/-- Skips to the next token and reads it, or finishes at the end of the text. -/
def next? (r : Reading) (s : Source) : Option (Reading × Source) :=
  match skipGap r.inFlow r.keyAllowed false s with
  | (keyAllowed, []) => some ({ r with keyAllowed }, [])
  | (keyAllowed, g :: rest) => token? { r with keyAllowed } g rest

/-- Reads tokens up to the end of the text, at most `steps` of them. -/
def run? (steps : Nat) (r : Reading) (s : Source) : Option (List Token) :=
  match steps, s with
  | _, [] => r.finish?
  | 0, _ :: _ => none
  | steps + 1, g :: rest =>
    match r.next? (g :: rest) with
    | none => none
    | some (r, rest) => run? steps r rest

end Reading

/-- All tokens of a text. Each token takes at least one glyph, so a text has no
    more tokens than glyphs. -/
def tokens? (t : Text) : Option (List Token) :=
  (Source.ofText? t).bind fun s => Reading.start.run? s.length s

end Yaml

end HelpWiring
