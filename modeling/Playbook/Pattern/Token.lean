import Playbook.Pattern.ClassExpr

/-!
# Playbook.Pattern.Token

The tokens of a pattern, such as an escape, a class in brackets, the start of a group or a
repetition operator. `Token.lex?` cuts a pattern into tokens or refuses it.

Design points:

* A token is complete: a class comes with its tree, a group with its name and flags, a
  repetition with its bounds. What is left for the reader of tokens is nesting alone.
-/

namespace Playbook.Pattern

/-! ### Flags -/

/-- A switch for how a pattern is read. -/
inductive Flag
  /-- Letters match in either case. -/
  | caseless
  /-- The line anchors look for newlines. -/
  | multiLine
  /-- The dot matches newlines. -/
  | dotAll
  /-- Greedy and lazy change places. -/
  | swapGreed
  /-- Classes are classes of Unicode characters, which they always are. -/
  | unicode
  deriving DecidableEq, Repr

/-- The flag with a letter. -/
def Flag.ofChar? : Char → Option Flag
  | 'i' => some caseless
  | 'm' => some multiLine
  | 's' => some dotAll
  | 'U' => some swapGreed
  | 'u' => some unicode
  | _ => none

/-- Flags that are switched on or off. -/
abbrev FlagChanges := List (Flag × Bool)

/-! ### Tokens -/

/-- A piece of a pattern. -/
inductive Token
  /-- A character that stands for itself. -/
  | char (c : Char)
  /-- A dot: any character. -/
  | any
  | lineStart
  | lineEnd
  | assertion (a : Assertion)
  | set (s : CharSet)
  | bracket (e : ClassExpr)
  /-- The start of a group that keeps what it matches. -/
  | openCapture (name : Option Text)
  /-- The start of a group that changes flags for its inside. -/
  | openPlain (changes : FlagChanges)
  /-- A change of flags up to the end of the group around it. -/
  | flags (changes : FlagChanges)
  | close
  /-- A bar between branches. -/
  | bar
  /-- A repetition of what stands before it. -/
  | repetition (min : Nat) (max : Option Nat) (greedy : Bool)
  deriving DecidableEq, Repr

namespace Token

/-! ### Groups -/

/-- Whether a character may begin the name of a group. -/
def isNameStart (c : Char) : Bool := c == '_' || CharSet.alphabetic.contains c

/-- Whether a character may go on with the name of a group. -/
def isNameChar (c : Char) : Bool :=
  c == '_' || c == '.' || c == '[' || c == ']' || CharSet.alphabetic.contains c
    || CharSet.numeric.contains c

/-- The name of a group up to its closing angle bracket, and the text after that. -/
def name? (text : Text) : Option (Text × Text) :=
  match text.takeWhile (· ≠ '>'), text.dropWhile (· ≠ '>') with
  | c :: name, _ :: after =>
    if isNameStart c && name.all isNameChar then some (c :: name, after) else none
  | _, _ => none

/-- Where a list of flags is being read: what was switched so far, whether a hyphen was
met, and whether it was the last character. -/
structure FlagProgress where
  changes : FlagChanges
  negated : Bool
  afterHyphen : Bool

/-- Reads flags up to a colon, which opens a group, or a closing parenthesis, which makes
a directive. No flag and no hyphen may occur twice, and a flag has to follow the hyphen. -/
def flagsFrom? (p : FlagProgress) : Text → Option (Token × Text)
  | [] => none
  | ':' :: rest => if p.afterHyphen then none else some (.openPlain p.changes, rest)
  | ')' :: rest =>
    if p.afterHyphen || p.changes.isEmpty then none else some (.flags p.changes, rest)
  | '-' :: rest => if p.negated then none else flagsFrom? ⟨p.changes, true, true⟩ rest
  | c :: rest =>
    match Flag.ofChar? c with
    | none => none
    | some flag =>
      if flag ∈ p.changes.map (·.1) || (flag == .unicode && p.negated) then none
      else flagsFrom? ⟨p.changes ++ [(flag, !p.negated)], p.negated, false⟩ rest

/-- What an opening parenthesis begins; the text stands after it. There is no looking
ahead or behind. -/
def group? : Text → Option (Token × Text)
  | '?' :: '=' :: _ => none
  | '?' :: '!' :: _ => none
  | '?' :: '<' :: '=' :: _ => none
  | '?' :: '<' :: '!' :: _ => none
  | '?' :: 'P' :: '<' :: rest => (name? rest).map fun (name, after) => (.openCapture name, after)
  | '?' :: '<' :: rest => (name? rest).map fun (name, after) => (.openCapture name, after)
  | '?' :: rest => flagsFrom? ⟨[], false, false⟩ rest
  | rest => some (.openCapture none, rest)

/-! ### Repetitions -/

/-- The largest bound a repetition may have. -/
def maxBound : Nat := UInt32.size - 1

/-- A bound of a repetition with white space around it, and the text after it. -/
def bound? (text : Text) : Option (Nat × Text) :=
  let rest := text.dropWhile Text.isBlank
  let digits := rest.takeWhile Char.isDigit
  let n := Nat.ofDigitChars 10 digits 0
  if digits.isEmpty || maxBound < n then none
  else some (n, (rest.dropWhile Char.isDigit).dropWhile Text.isBlank)

/-- The bounds in braces, whose opening one stood before the text. -/
def bounds? (text : Text) : Option ((Nat × Option Nat) × Text) := do
  let (min, rest) ← bound? text
  match rest with
  | '\x7d' :: rest => some ((min, some min), rest)
  | ',' :: '\x7d' :: rest => some ((min, none), rest)
  | ',' :: rest =>
    let (max, rest) ← bound? rest
    match rest with
    | '\x7d' :: rest => if min ≤ max then some ((min, some max), rest) else none
    | _ => none
  | _ => none

/-- A repetition with the question mark that may follow and makes it lazy. -/
def withGreed (min : Nat) (max : Option Nat) : Text → Token × Text
  | '?' :: rest => (.repetition min max false, rest)
  | rest => (.repetition min max true, rest)

/-! ### All tokens -/

/-- The token of an escape. -/
def ofEscape : Escape → Token
  | .char c => .char c
  | .set s => .set s
  | .assertion a => .assertion a

/-- The first token of a text that begins with a character, and the text after it. -/
def next? (c : Char) (rest : Text) : Option (Token × Text) :=
  match c with
  | '(' => group? rest
  | ')' => some (.close, rest)
  | '|' => some (.bar, rest)
  | '[' => (ClassExpr.read? rest).map fun (e, after) => (.bracket e, after)
  | '?' => some (withGreed 0 (some 1) rest)
  | '*' => some (withGreed 0 none rest)
  | '+' => some (withGreed 1 none rest)
  | '\x7b' => (bounds? rest).map fun ((min, max), after) => withGreed min max after
  | '\\' => (Escape.read? rest).map fun (e, after) => (ofEscape e, after)
  | '.' => some (.any, rest)
  | '^' => some (.lineStart, rest)
  | '$' => some (.lineEnd, rest)
  | c => some (.char c, rest)

/-- The tokens of a pattern, unless a part of it is no token. Every token takes at least
one character. -/
def lex? : Text → Option (List Token)
  | [] => some []
  | c :: rest =>
    match next? c rest with
    | some (token, after) =>
      if _h : after.length ≤ rest.length then (lex? after).map (token :: ·) else none
    | none => none
termination_by text => text.length
decreasing_by simp; omega

end Token

end Playbook.Pattern
