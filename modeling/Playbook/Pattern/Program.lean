import Playbook.Pattern.Expr

/-!
# Playbook.Pattern.Program

The machine that searches for an expression: a list of instructions, each at an address.
A machine runs as a thread that stands at an address and at a place in the text; a fork
makes two threads, of which the first is preferred.

Design points:

* `emit` is given the address its code will stand at, so every target is an address of
  the final program and pieces of code need no later adjustment.
* The length of the code of an expression does not depend on where it stands.
* An expression that may match the empty text is repeated as "once or more, or not at
  all". A thread that comes back to an address without having read anything ends, and
  with this shape the order of preference survives that.
-/

namespace Playbook.Pattern

/-- An instruction. Unless it says otherwise it goes on at the next address. -/
inductive Instr
  | char (c : Char)
  | set (s : CharSet)
  /-- Goes on if the condition holds here. -/
  | check (a : Assertion)
  /-- Goes on at the first address, or else at the second. -/
  | fork (preferred other : Nat)
  | jump (target : Nat)
  /-- Notes the place under a number. -/
  | mark (slot : Nat)
  | accept
  deriving DecidableEq, Repr

namespace Instr

/-- A fork between going on with a repetition at `inside` and leaving it at `outside`. -/
def branch (greedy : Bool) (inside outside : Nat) : Instr :=
  if greedy then fork inside outside else fork outside inside

end Instr

namespace Program

/-- The code of an expression by the address it stands at. -/
abbrev Emitter := Nat → List Instr

/-- Copies of some code, one after the other. -/
def copies (code : Emitter) : Nat → Emitter
  | 0, _ => []
  | n + 1, base =>
    let first := code base
    first ++ copies code n (base + first.length)

/-- Some code once or more. -/
def onceOrMore (code : Emitter) (greedy : Bool) : Emitter := fun base =>
  let body := code base
  body ++ [Instr.branch greedy base (base + body.length + 1)]

/-- Some code once or not at all. -/
def optional (code : Emitter) (greedy : Bool) : Emitter := fun base =>
  let body := code (base + 1)
  Instr.branch greedy (base + 1) (base + 1 + body.length) :: body

/-- Some code that always reads something, any number of times. -/
def anyNumber (code : Emitter) (greedy : Bool) : Emitter := fun base =>
  let body := code (base + 1)
  Instr.branch greedy (base + 1) (base + body.length + 2) :: body ++ [Instr.jump base]

/-- Some code at most `n` times; every way out leads to `exit`. -/
def upTo (code : Emitter) (greedy : Bool) (exit : Nat) : Nat → Emitter
  | 0, _ => []
  | n + 1, base =>
    let body := code (base + 1)
    Instr.branch greedy (base + 1) exit :: body
      ++ upTo code greedy exit n (base + 1 + body.length)

/-- Some code `min` to `max` times. `nullable` says whether it may read nothing. -/
def times (code : Emitter) (nullable : Bool) (min : Nat) (max : Option Nat) (greedy : Bool) :
    Emitter := fun base =>
  match max with
  | none =>
    match min with
    | 0 =>
      if nullable then optional (onceOrMore code greedy) greedy base
      else anyNumber code greedy base
    | n + 1 =>
      let start := copies code n base
      start ++ onceOrMore code greedy (base + start.length)
  | some max =>
    let start := copies code min base
    let next := base + start.length
    start ++ upTo code greedy (next + (max - min) * ((code base).length + 1)) (max - min) next

/-- The code of an expression. -/
def emit : Expr → Nat → List Instr
  | .empty, _ => []
  | .char c, _ => [.char c]
  | .set s, _ => [.set s]
  | .assertion a, _ => [.check a]
  | .cat a b, base =>
    let first := emit a base
    first ++ emit b (base + first.length)
  | .alt a b, base =>
    let first := emit a (base + 1)
    let second := emit b (base + first.length + 2)
    .fork (base + 1) (base + first.length + 2) :: first
      ++ .jump (base + first.length + 2 + second.length) :: second
  | .times min max greedy e, base => times (emit e) e.nullable min max greedy base
  | .group i _ e, base =>
    let body := emit e (base + 1)
    .mark (2 * i) :: body ++ [.mark (2 * i + 1)]

end Program

/-- A machine for an expression. -/
structure Program where
  code : Array Instr
  /-- The names of the groups, from group one on; `none` for a group without a name. -/
  groups : List (Option Text)
  deriving DecidableEq, Repr

namespace Program

/-- The names of the groups by number, up to the highest number that occurs. -/
def groupNames (groups : List (Nat × Option Text)) : List (Option Text) :=
  (List.range ((groups.map (·.1)).foldl max 0)).map fun i => (groups.lookup (i + 1)).join

/-- The machine for an expression. -/
def ofExpr (e : Expr) : Program where
  code := (emit e 0 ++ [Instr.accept]).toArray
  groups := groupNames e.groups

end Program

end Playbook.Pattern
