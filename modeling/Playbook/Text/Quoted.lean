import Playbook.Character.Hidden
import Playbook.CharSet

/-!
# Playbook.Text.Quoted

Text in quotes, as it is shown to programmers: with a backslash before quotes and
backslashes, with short escapes for the common controls, and with the code point in place
of every other character that does not show by itself.
-/

namespace Playbook.Text.Quoted

/-- The code point of a character, in lower case hexadecimal digits. -/
def codePoint (c : Char) : Text := "\\u\x7b".toList ++ Nat.toDigits 16 c.toNat ++ ['\x7d']

/-- A character within quotes. -/
def quoteChar (c : Char) : Text :=
  match c with
  | '\x00' => ['\\', '0']
  | '\t' => ['\\', 't']
  | '\n' => ['\\', 'n']
  | '\r' => ['\\', 'r']
  | '"' => ['\\', '"']
  | '\\' => ['\\', '\\']
  | c => if CharSet.inRanges c.toNat Character.hidden then codePoint c else [c]

/-- A text in quotes. -/
def quote (text : Text) : Text := '"' :: text.flatMap quoteChar ++ ['"']

end Playbook.Text.Quoted
