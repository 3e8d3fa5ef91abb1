import HelpWiring.Report.Basic

/-!
# Reports as JSON

A report written as JSON for other programs to read, with two spaces of
indentation for each level. A list or a record without members is written on
one line. Texts stand in double quotes; quotes, backslashes and control
characters in them are escaped, all other characters are written as they are.

`Json` is the small part of JSON that reports need.

## Main definitions

* `Json`: Texts, numbers, lists and records.
* `Json.write`: A value on indented lines.
* `Report.toJson`: A report as a value.
* `Report.json`: A report as text.
-/

namespace HelpWiring

/-- Texts, numbers, lists and records. -/
inductive Json
  | text (t : Text)
  | number (n : Nat)
  | list (items : List Json)
  | record (fields : List (Text × Json))

namespace Json

/-- One character of a text. -/
def escape (c : Char) : Text :=
  match c with
  | '"' => "\\\"".toList
  | '\\' => "\\\\".toList
  | '\x08' => "\\b".toList
  | '\t' => "\\t".toList
  | '\n' => "\\n".toList
  | '\x0c' => "\\f".toList
  | '\r' => "\\r".toList
  | c =>
    if c.toNat < 0x20 then
      "\\u00".toList ++ [Nat.digitChar (c.toNat / 16), Nat.digitChar (c.toNat % 16)]
    else [c]

/-- A text in quotes. -/
def writeText (t : Text) : Text := '"' :: (t.flatMap escape ++ ['"'])

/-- A new line at some depth. -/
def newLine (depth : Nat) : Text := '\n' :: List.replicate (2 * depth) ' '

mutual

/-- A value whose first line stands at some depth. -/
def write (depth : Nat) : Json → Text
  | text t => writeText t
  | number n => Text.ofNat n
  | list [] => "[]".toList
  | list (item :: more) =>
    '[' :: (newLine (depth + 1) ++ write (depth + 1) item ++ writeItems (depth + 1) more
      ++ newLine depth ++ [']'])
  | record [] => "\x7b\x7d".toList
  | record (field :: more) =>
    '\x7b' :: (newLine (depth + 1) ++ writeField (depth + 1) field ++ writeFields (depth + 1) more
      ++ newLine depth ++ ['\x7d'])

/-- The items of a list after its first one. -/
def writeItems (depth : Nat) : List Json → Text
  | [] => []
  | item :: more => ',' :: (newLine depth ++ write depth item ++ writeItems depth more)

/-- A field of a record. -/
def writeField (depth : Nat) : Text × Json → Text
  | (name, value) => writeText name ++ ": ".toList ++ write depth value

/-- The fields of a record after its first one. -/
def writeFields (depth : Nat) : List (Text × Json) → Text
  | [] => []
  | field :: more => ',' :: (newLine depth ++ writeField depth field ++ writeFields depth more)

end

end Json

/-- The status of a step as a value. -/
def Status.toJson : Status → Json
  | added => .record [("status".toList, .text "added".toList)]
  | alreadyPresent => .record [("status".toList, .text "already_present".toList)]
  | anchorNotFound reason =>
    .record [("status".toList, .text "anchor_not_found".toList),
      ("reason".toList, .text reason.name)]

/-- A step as a value. -/
def Step.toJson (s : Step) : Json :=
  .record [("kind".toList, .text s.kind.name), ("status".toList, s.status.toJson)]

/-- The outcome of a file as a value. -/
def Outcome.toJson : Outcome → Json
  | updated => .record [("kind".toList, .text "updated".toList)]
  | upToDate => .record [("kind".toList, .text "up_to_date".toList)]
  | notFound => .record [("kind".toList, .text "not_found".toList)]
  | failed reason =>
    .record [("kind".toList, .text "failed".toList), ("message".toList, .text reason)]

/-- The report of a file as a value. -/
def PageReport.toJson (f : PageReport) : Json :=
  .record [("file".toList, .text f.file), ("tag".toList, .text f.tag),
    ("steps".toList, .list (f.steps.map Step.toJson)), ("outcome".toList, f.outcome.toJson)]

/-- The tally as a value. -/
def Summary.toJson (s : Summary) : Json :=
  .record [("updated".toList, .number s.updated), ("skipped".toList, .number s.skipped),
    ("errors".toList, .number s.errors), ("not_found".toList, .number s.notFound)]

/-- A report as a value. -/
def Report.toJson (r : Report) : Json :=
  .record [("files".toList, .list (r.files.map PageReport.toJson)),
    ("summary".toList, r.summary.toJson)]

/-- A report as text. -/
def Report.json (r : Report) : Text := r.toJson.write 0

end HelpWiring
