import HelpWiring.Text.Lines
import HelpWiring.Text.Printable

/-!
# Quoted Texts

How a text is shown inside a message: between double quotes, with a backslash
in front of a quote and of a backslash, letters for the line breaks, the tab
and the null character, and the code point in braces for everything that
cannot be shown. An apostrophe is shown as it is. Paths are shown the same way.

## Main definitions

* `quotedChar`: One character of a quoted text.
* `Text.quoted`: A text in quotes.
-/

namespace HelpWiring

/-- A code point in braces. -/
def codePoint (c : Char) : Text := "\\u\x7b".toList ++ (Nat.toDigits 16 c.toNat ++ ['\x7d'])

/-- One character of a quoted text. -/
def quotedChar (c : Char) : Text :=
  match c with
  | '\x00' => "\\0".toList
  | '\t' => "\\t".toList
  | '\r' => "\\r".toList
  | '\n' => "\\n".toList
  | '"' => "\\\"".toList
  | '\\' => "\\\\".toList
  | c => if isPrintable c then [c] else codePoint c

namespace Text

/-- A text in quotes. -/
def quoted (t : Text) : Text := '"' :: (t.flatMap quotedChar ++ ['"'])

end Text

end HelpWiring
