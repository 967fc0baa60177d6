import Playbook.Pattern.Token

/-!
# Playbook.Pattern.Syntax

From the text of a pattern to its expression. Tokens are taken one after the other; the
groups that are open lie on a stack, each with what was read before it.

Design points:

* Flags hold from where they are switched to the end of the group around them, across its
  branches; a group gives back the flags it was opened under.
* Groups that keep what they match are numbered from one, in the order of their opening
  parentheses; a name may be used once.
* Every part carries the height of its syntax, because patterns may be nested to a limit
  only.
-/

namespace Playbook.Pattern

/-- The flags that hold at a place. -/
structure Flags where
  caseless : Bool
  multiLine : Bool
  dotAll : Bool
  swapGreed : Bool
  deriving DecidableEq, Repr

namespace Flags

/-- The flags at the start of a pattern. -/
def none : Flags := ⟨false, false, false, false⟩

/-- The flags with one of them switched. -/
def change (f : Flags) : Flag × Bool → Flags
  | (.caseless, on) => { f with caseless := on }
  | (.multiLine, on) => { f with multiLine := on }
  | (.dotAll, on) => { f with dotAll := on }
  | (.swapGreed, on) => { f with swapGreed := on }
  | (.unicode, _) => f

/-- The flags with several of them switched. -/
def changeAll (f : Flags) (changes : FlagChanges) : Flags := changes.foldl change f

end Flags

namespace Syntax

/-- A part of a sequence. -/
structure Part where
  expr : Expr
  /-- How deeply groups, repetitions, sequences, choices and classes are nested in it. -/
  height : Nat
  /-- Whether it is there to switch flags; such a part cannot be repeated. -/
  isDirective : Bool
  deriving DecidableEq, Repr

/-- The height that patterns may have. -/
def maxHeight : Nat := 250

/-- The height of something around parts that adds a level if there are several. -/
def heightOver (parts : List Part) : Nat :=
  (parts.map (·.height)).foldl max 0 + if parts.length < 2 then 0 else 1

/-- Parts, in order, as one part: one after the other. -/
def sequence (parts : List Part) : Part :=
  ⟨Expr.sequence (parts.map (·.expr)), heightOver parts, false⟩

/-- Branches, in order, as one part: a choice. -/
def choice (branches : List Part) : Part :=
  ⟨Expr.choice (branches.map (·.expr)), heightOver branches, false⟩

/-- A group that is open. -/
structure Opened where
  /-- The number and the name it keeps its match under; `none` if it keeps none. -/
  capture : Option (Nat × Option Text)
  /-- The flags it was opened under. -/
  flags : Flags
  /-- The branches before it, the latest first. -/
  branches : List Part
  /-- The parts before it in its branch, the latest first. -/
  parts : List Part
  deriving DecidableEq, Repr

/-- How far a pattern has been read. -/
structure Progress where
  /-- The flags that hold. -/
  flags : Flags
  /-- How many groups have been numbered. -/
  groups : Nat
  /-- The names that have been used. -/
  names : List Text
  /-- The finished branches of the innermost open group, the latest first. -/
  branches : List Part
  /-- The parts of the branch that is read, the latest first. -/
  parts : List Part
  /-- The open groups, the innermost first. -/
  stack : List Opened
  deriving DecidableEq, Repr

namespace Progress

/-- Before the first token. -/
def start : Progress := ⟨Flags.none, 0, [], [], [], []⟩

/-- What was read in the innermost open group. -/
def inside (p : Progress) : Part := choice (sequence p.parts.reverse :: p.branches).reverse

/-- Adds a part without inner structure. -/
def push (p : Progress) (expr : Expr) (height : Nat) : Progress :=
  { p with parts := ⟨expr, height, false⟩ :: p.parts }

/-- A character under the flags that hold. -/
def charExpr (p : Progress) (c : Char) : Expr :=
  if p.flags.caseless then
    let s := (CharSet.single c).caseClosure
    if s = CharSet.single c then .char c else .set s
  else .char c

/-- Opens a group. -/
def openGroup (p : Progress) (capture : Option (Nat × Option Text)) (flags : Flags) : Progress :=
  { p with
    flags := flags
    branches := []
    parts := []
    stack := ⟨capture, p.flags, p.branches, p.parts⟩ :: p.stack }

/-- Opens a group that keeps its match under the next number. -/
def openCapture? (p : Progress) (name : Option Text) : Option Progress :=
  let index := p.groups + 1
  match name with
  | none => some ({ p with groups := index }.openGroup (some (index, none)) p.flags)
  | some name =>
    if name ∈ p.names then none
    else
      let p := { p with groups := index, names := name :: p.names }
      some (p.openGroup (some (index, some name)) p.flags)

/-- Closes the innermost group, if one is open. -/
def close? (p : Progress) : Option Progress :=
  match p.stack with
  | [] => none
  | opened :: stack =>
    let inside := p.inside
    let expr :=
      match opened.capture with
      | some (index, name) => .group index name inside.expr
      | none => inside.expr
    some { p with
      flags := opened.flags
      branches := opened.branches
      parts := ⟨expr, inside.height + 1, false⟩ :: opened.parts
      stack := stack }

/-- Repeats the last part, if there is one that can be repeated. -/
def repeat? (p : Progress) (min : Nat) (max : Option Nat) (greedy : Bool) : Option Progress :=
  match p.parts with
  | [] => none
  | part :: parts =>
    if part.isDirective then none
    else
      let expr := Expr.repeated min max (greedy != p.flags.swapGreed) part.expr
      some { p with parts := ⟨expr, part.height + 1, false⟩ :: parts }

/-- Takes one token. -/
def take? (p : Progress) : Token → Option Progress
  | .char c => some (p.push (p.charExpr c) 0)
  | .any => some (p.push (.set (if p.flags.dotAll then .all else .exceptNewline)) 0)
  | .lineStart =>
    some (p.push (.assertion (if p.flags.multiLine then .lineStart else .textStart)) 0)
  | .lineEnd => some (p.push (.assertion (if p.flags.multiLine then .lineEnd else .textEnd)) 0)
  | .assertion a => some (p.push (.assertion a) 0)
  | .set s => some (p.push (.set s) 0)
  | .bracket e => some (p.push (.set (e.denote p.flags.caseless)) e.height)
  | .openCapture name => p.openCapture? name
  | .openPlain changes => some (p.openGroup none (p.flags.changeAll changes))
  | .flags changes =>
    some { p with
      flags := p.flags.changeAll changes
      parts := ⟨.empty, 0, true⟩ :: p.parts }
  | .close => p.close?
  | .bar => some { p with branches := sequence p.parts.reverse :: p.branches, parts := [] }
  | .repetition min max greedy => p.repeat? min max greedy

end Progress

/-- The expression that tokens denote, unless they are not nested properly or too deeply,
or a repetition is too large. -/
def ofTokens? (tokens : List Token) : Option Expr := do
  let p ← tokens.foldlM Progress.take? Progress.start
  let whole := p.inside
  if p.stack.isEmpty && whole.height ≤ maxHeight && whole.expr.isModest then some whole.expr
  else none

end Syntax

/-- The expression that the text of a pattern denotes. -/
def Expr.ofText? (text : Text) : Option Expr := do
  Syntax.ofTokens? (← Token.lex? text)

end Playbook.Pattern
