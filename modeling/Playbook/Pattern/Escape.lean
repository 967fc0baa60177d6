import Playbook.Pattern.Expr

/-!
# Playbook.Pattern.Escape

What a backslash and the text after it stand for in a pattern: a character, a class or
an assertion.
-/

namespace Playbook.Pattern

/-- The meaning of an escape. -/
inductive Escape
  | char (c : Char)
  | set (s : CharSet)
  | assertion (a : Assertion)
  deriving DecidableEq, Repr

namespace Escape

/-- The characters with a meaning of their own in patterns. -/
def metaChars : Text := "\\.+*?()|[]\x7b\x7d^$#&-~".toList

/-- A pattern for a text that is meant literally: a backslash stands before every character
with a meaning of its own. -/
def escape (text : Text) : Text := text.flatMap fun c => if c ∈ metaChars then ['\\', c] else [c]

/-- Whether a backslash makes the character stand for itself: every ASCII character that is
neither a letter nor a digit nor an angle bracket. -/
def isEscapable (c : Char) : Bool :=
  c ∈ metaChars || (c.toNat < 128 && !c.isAlphanum && c != '<' && c != '>')

/-! ### Code points -/

/-- The value of a hexadecimal digit. -/
def hexDigit? (c : Char) : Option Nat :=
  if '0' ≤ c && c ≤ '9' then some (c.toNat - '0'.toNat)
  else if 'a' ≤ c && c ≤ 'f' then some (c.toNat - 'a'.toNat + 10)
  else if 'A' ≤ c && c ≤ 'F' then some (c.toNat - 'A'.toNat + 10)
  else none

/-- The character with a code point, unless the text is no hexadecimal number of one. -/
def hexChar? (digits : Text) : Option Char := do
  let values ← digits.mapM hexDigit?
  let n := values.foldl (fun n d => 16 * n + d) 0
  if digits.isEmpty then none
  else if n.isValidChar then some (Char.ofNat n)
  else none

/-- A code point in braces, or one of exactly `count` digits, and the text after it. -/
def codePoint? (count : Nat) : Text → Option (Char × Text)
  | '\x7b' :: rest =>
    match rest.dropWhile (· ≠ '\x7d') with
    | _ :: after => (hexChar? (rest.takeWhile (· ≠ '\x7d'))).map fun c => (c, after)
    | [] => none
  | text =>
    if text.length < count then none
    else (hexChar? (text.take count)).map fun c => (c, text.drop count)

/-! ### Word boundaries -/

/-- Whether the character may occur in the name of a word boundary. -/
def isBoundaryChar (c : Char) : Bool := c.isAlpha || c == '-'

/-- The word boundary with a name. -/
def boundary? (name : Text) : Option Assertion :=
  match String.ofList name with
  | "start" => some .wordStart
  | "end" => some .wordEnd
  | "start-half" => some .wordStartHalf
  | "end-half" => some .wordEndHalf
  | _ => none

/-- A word boundary: one with a name in braces, or the plain one. Braces that begin with
anything but a letter or a hyphen do not belong to it. -/
def wordBoundary? : Text → Option (Assertion × Text)
  | ['\x7b'] => none
  | '\x7b' :: c :: rest =>
    if isBoundaryChar c then
      match (c :: rest).dropWhile isBoundaryChar with
      | '\x7d' :: after =>
        (boundary? ((c :: rest).takeWhile isBoundaryChar)).map fun a => (a, after)
      | _ => none
    else some (.boundary, '\x7b' :: c :: rest)
  | text => some (.boundary, text)

/-! ### All escapes -/

/-- The meaning of the escape whose backslash stood before the text, and the text after
it. -/
def read? : Text → Option (Escape × Text)
  | [] => none
  | c :: rest =>
    if isEscapable c then some (.char c, rest)
    else
      match c with
      | 'x' => (codePoint? 2 rest).map fun (c, after) => (.char c, after)
      | 'u' => (codePoint? 4 rest).map fun (c, after) => (.char c, after)
      | 'U' => (codePoint? 8 rest).map fun (c, after) => (.char c, after)
      | 'd' => some (.set .digit, rest)
      | 'D' => some (.set CharSet.digit.complement, rest)
      | 's' => some (.set .blank, rest)
      | 'S' => some (.set CharSet.blank.complement, rest)
      | 'w' => some (.set .word, rest)
      | 'W' => some (.set CharSet.word.complement, rest)
      | 'a' => some (.char '\x07', rest)
      | 'f' => some (.char '\x0c', rest)
      | 't' => some (.char '\t', rest)
      | 'n' => some (.char '\n', rest)
      | 'r' => some (.char '\r', rest)
      | 'v' => some (.char '\x0b', rest)
      | 'A' => some (.assertion .textStart, rest)
      | 'z' => some (.assertion .textEnd, rest)
      | 'b' => (wordBoundary? rest).map fun (a, after) => (.assertion a, after)
      | 'B' => some (.assertion .notBoundary, rest)
      | '<' => some (.assertion .wordStart, rest)
      | '>' => some (.assertion .wordEnd, rest)
      | _ => none

end Escape

end Playbook.Pattern
