import Playbook.CharSet

/-!
# Playbook.Pattern.Expr

Regular expressions as trees, after flags and character classes have been resolved.

Design points:

* Sequence and choice are binary; a choice prefers its left side.
* `Expr.repeated` is the way to build a repetition. It leaves out what needs no
  repetition, so that a repetition never runs an expression twice that can only match
  the empty text.
-/

namespace Playbook.Pattern

/-- A condition on the two characters around a place in a text. -/
inductive Assertion
  | textStart
  | textEnd
  | lineStart
  | lineEnd
  /-- A word character on exactly one side. -/
  | boundary
  /-- A word character on both sides or on neither. -/
  | notBoundary
  | wordStart
  | wordEnd
  /-- No word character before. -/
  | wordStartHalf
  /-- No word character after. -/
  | wordEndHalf
  deriving DecidableEq, Repr

namespace Assertion

/-- Whether there is a character and it belongs to a word. -/
def isWord (c : Option Char) : Bool := c.any CharSet.word.contains

/-- Whether the condition holds between two characters; `none` stands for an end of the
text. -/
def holds (before after : Option Char) : Assertion → Bool
  | textStart => before.isNone
  | textEnd => after.isNone
  | lineStart => before.all (· == '\n')
  | lineEnd => after.all (· == '\n')
  | boundary => isWord before != isWord after
  | notBoundary => isWord before == isWord after
  | wordStart => !isWord before && isWord after
  | wordEnd => isWord before && !isWord after
  | wordStartHalf => !isWord before
  | wordEndHalf => !isWord after

end Assertion

/-- A regular expression. -/
inductive Expr
  | empty
  /-- Matches one character. -/
  | char (c : Char)
  /-- Matches one character of a set. -/
  | set (s : CharSet)
  /-- Matches the empty text where a condition holds. -/
  | assertion (a : Assertion)
  /-- Matches one after the other. -/
  | cat (first second : Expr)
  /-- Matches one of two; the first is preferred. -/
  | alt (first second : Expr)
  /-- Matches a number of times in a row, `min` to `max` or without an upper bound. A
  greedy repetition prefers to go on, another one to stop. -/
  | times (min : Nat) (max : Option Nat) (greedy : Bool) (e : Expr)
  /-- Matches and keeps what was matched, as the group of a number and maybe a name. -/
  | group (index : Nat) (name : Option Text) (e : Expr)
  deriving DecidableEq, Repr

namespace Expr

/-- The expressions one after the other. -/
def sequence : List Expr → Expr
  | [] => empty
  | [e] => e
  | e :: rest => cat e (sequence rest)

/-- The choice between expressions, earlier ones preferred. -/
def choice : List Expr → Expr
  | [] => set CharSet.empty
  | [e] => e
  | e :: rest => alt e (choice rest)

/-- Whether the expression can match nothing but the empty text. -/
def onlyEmpty : Expr → Bool
  | empty => true
  | char _ => false
  | set _ => false
  | assertion _ => true
  | cat a b => a.onlyEmpty && b.onlyEmpty
  | alt a b => a.onlyEmpty && b.onlyEmpty
  | times _ _ _ e => e.onlyEmpty
  | group _ _ e => e.onlyEmpty

/-- Whether the expression may match the empty text. -/
def nullable : Expr → Bool
  | empty => true
  | char _ => false
  | set _ => false
  | assertion _ => true
  | cat a b => a.nullable && b.nullable
  | alt a b => a.nullable || b.nullable
  | times min _ _ e => min == 0 || e.nullable
  | group _ _ e => e.nullable

/-- A repetition. What can only match the empty text is tried once at the most, no
repetition at all is the empty expression, and a single one is the expression itself. -/
def repeated (min : Nat) (max : Option Nat) (greedy : Bool) (e : Expr) : Expr :=
  let min' := if e.onlyEmpty then Nat.min min 1 else min
  let max' := if e.onlyEmpty then some ((max.map (Nat.min · 1)).getD 1) else max
  if min' = 0 ∧ max' = some 0 then empty
  else if min' = 1 ∧ max' = some 1 then e
  else times min' max' greedy e

/-- The groups of an expression, number and name. -/
def groups : Expr → List (Nat × Option Text)
  | empty => []
  | char _ => []
  | set _ => []
  | assertion _ => []
  | cat a b => a.groups ++ b.groups
  | alt a b => a.groups ++ b.groups
  | times _ _ _ e => e.groups
  | group i name e => (i, name) :: e.groups

/-! ### Size -/

/-- A rough size of the machine for an expression. Every copy that a repetition asks for
counts. -/
def weight : Expr → Nat
  | empty => 16
  | char c => 32 * c.utf8Size
  | set s => 600 + 60 * s.ranges.length
  | assertion _ => 32
  | cat a b => a.weight + b.weight
  | alt a b => 32 + a.weight + b.weight
  | times min max _ e => 32 + Nat.max (Nat.max min (max.getD min)) 1 * e.weight
  | group _ _ e => 64 + e.weight

/-- The weight that a repetition may have. -/
def maxWeight : Nat := 10 * 1024 * 1024

/-- Whether every repetition within the expression keeps to the weight it may have. -/
def isModest : Expr → Bool
  | empty => true
  | char _ => true
  | set _ => true
  | assertion _ => true
  | cat a b => a.isModest && b.isModest
  | alt a b => a.isModest && b.isModest
  | times min max greedy e => decide ((times min max greedy e).weight ≤ maxWeight) && e.isModest
  | group _ _ e => e.isModest

end Expr

end Playbook.Pattern
