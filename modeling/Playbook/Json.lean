import Playbook.Text.Basic

/-!
# Playbook.Json

The JSON values that diagnostics are made of, and their two layouts: compact, on one
line without blanks, and pretty, one item a line with an indent of two. Members of
an object keep their order. Text is written as it is, except that a quote, a
backslash and the characters below U+0020 are escaped.
-/

namespace Playbook

/-- A JSON value of the kinds that diagnostics use. -/
inductive Json
  | null
  | number (n : Nat)
  | string (text : Text)
  | array (items : List Json)
  | object (members : List (Text × Json))

namespace Json

/-! ### Leaves -/

/-- A character within a JSON string: the short escape where there is one, `\u` and
four hexadecimal digits for the other characters below U+0020. -/
def escapeChar (c : Char) : Text :=
  if c = '"' then ['\\', '"']
  else if c = '\\' then ['\\', '\\']
  else if c = '\n' then ['\\', 'n']
  else if c = '\r' then ['\\', 'r']
  else if c = '\t' then ['\\', 't']
  else if c.toNat = 8 then ['\\', 'b']
  else if c.toNat = 12 then ['\\', 'f']
  else if c.toNat < 32 then
    ['\\', 'u', '0', '0', Nat.digitChar (c.toNat / 16), Nat.digitChar (c.toNat % 16)]
  else [c]

/-- A text as a JSON string. -/
def quote (text : Text) : Text := '"' :: text.flatMap escapeChar ++ ['"']

/-! ### Compact layout -/

mutual

/-- The value on one line without blanks. -/
def compact : Json → Text
  | null => "null".toList
  | number n => Text.decimal n
  | string text => quote text
  | array items => '[' :: compactItems items ++ [']']
  | object members => '\x7b' :: compactMembers members ++ ['\x7d']

/-- The items of an array, with commas between them. -/
def compactItems : List Json → Text
  | [] => []
  | [item] => compact item
  | item :: rest => compact item ++ ',' :: compactItems rest

/-- The members of an object, with commas between them. -/
def compactMembers : List (Text × Json) → Text
  | [] => []
  | [(key, value)] => quote key ++ ':' :: compact value
  | (key, value) :: rest => quote key ++ ':' :: compact value ++ ',' :: compactMembers rest

end

/-! ### Pretty layout -/

/-- A new line with an indent of two blanks for each level. -/
def newLine (depth : Nat) : Text := '\n' :: List.replicate (2 * depth) ' '

mutual

/-- The value over several lines, for a place that is indented by `depth` levels. An
empty array or object takes no line of its own. -/
def pretty (depth : Nat) : Json → Text
  | null => "null".toList
  | number n => Text.decimal n
  | string text => quote text
  | array [] => ['[', ']']
  | array (item :: rest) =>
    '[' :: newLine (depth + 1) ++ pretty (depth + 1) item ++ prettyItems (depth + 1) rest
      ++ newLine depth ++ [']']
  | object [] => ['\x7b', '\x7d']
  | object ((key, value) :: rest) =>
    '\x7b' :: newLine (depth + 1) ++ quote key ++ [':', ' '] ++ pretty (depth + 1) value
      ++ prettyMembers (depth + 1) rest ++ newLine depth ++ ['\x7d']

/-- The items of an array after the first. -/
def prettyItems (depth : Nat) : List Json → Text
  | [] => []
  | item :: rest => ',' :: newLine depth ++ pretty depth item ++ prettyItems depth rest

/-- The members of an object after the first. -/
def prettyMembers (depth : Nat) : List (Text × Json) → Text
  | [] => []
  | (key, value) :: rest =>
    ',' :: newLine depth ++ quote key ++ [':', ' '] ++ pretty depth value
      ++ prettyMembers depth rest

end

end Json

end Playbook
