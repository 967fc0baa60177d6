import Playbook.Pattern.Escape

/-!
# Playbook.Pattern.ClassExpr

Character classes in brackets, such as `[a-z0-9_]` and `[\w&&[^\d]]`: how they are read
and which set they denote.

Design points:

* A class is read to a tree first, since the set it denotes depends on whether case is
  ignored, and that is known only where the class is used.
* Reading keeps the brackets and operators that are still open on a stack. Operators bind
  to the left and all alike, weaker than standing side by side.
-/

namespace Playbook.Pattern

/-- An operator between classes. -/
inductive ClassOp
  | intersection
  | difference
  | symmetricDifference
  deriving DecidableEq, Repr

/-- The set an operator gives. -/
def ClassOp.apply : ClassOp → CharSet → CharSet → CharSet
  | .intersection => CharSet.inter
  | .difference => CharSet.diff
  | .symmetricDifference => CharSet.symmDiff

/-- A character class as it is written. -/
inductive ClassExpr
  | none
  /-- The characters from one to another. -/
  | range (lo hi : Char)
  /-- A class that is closed under case variants. -/
  | closed (s : CharSet)
  /-- A class of ASCII characters, or what is not in it. -/
  | ascii (s : CharSet) (negated : Bool)
  /-- The characters of two classes. -/
  | both (a b : ClassExpr)
  | combine (op : ClassOp) (a b : ClassExpr)
  /-- A class in brackets of its own, or what is not in it. -/
  | bracket (negated : Bool) (e : ClassExpr)
  deriving DecidableEq, Repr

namespace ClassExpr

/-! ### Denotation -/

/-- The set, or its complement. -/
def negateIf (negated : Bool) (s : CharSet) : CharSet := if negated then s.complement else s

/-- The set, or its closure under case variants. -/
def foldIf (caseless : Bool) (s : CharSet) : CharSet := if caseless then s.caseClosure else s

/-- The set of characters that a class denotes. Case variants are added before a set is
negated and before an operator is applied. -/
def denote (caseless : Bool) : ClassExpr → CharSet
  | none => .empty
  | range lo hi => .range lo hi
  | closed s => s
  | ascii s negated => negateIf negated (foldIf caseless s)
  | both a b => (a.denote caseless).union (b.denote caseless)
  | combine op a b =>
    op.apply (foldIf caseless (a.denote caseless)) (foldIf caseless (b.denote caseless))
  | bracket negated e => negateIf negated (foldIf caseless (e.denote caseless))

/-- How deeply brackets and operators are nested. -/
def height : ClassExpr → Nat
  | none => 0
  | range _ _ => 0
  | closed _ => 0
  | ascii _ _ => 0
  | both a b => max a.height b.height
  | combine _ a b => 1 + max a.height b.height
  | bracket _ e => 1 + e.height

/-! ### Reading -/

/-- What waits for the end of the class that is read. -/
inductive Waiting
  /-- A bracket, with the class it stands in up to there. -/
  | bracket (outer : ClassExpr) (negated : Bool)
  /-- An operator with its left side. -/
  | operator (op : ClassOp) (left : ClassExpr)
  deriving DecidableEq, Repr

/-- How far a class has been read: the items since the last bracket or operator, and what
waits. -/
structure Progress where
  items : ClassExpr
  waiting : List Waiting
  deriving DecidableEq, Repr

/-- What one step of reading gives. -/
inductive StepResult
  /-- The outermost bracket is closed; the text after it follows. -/
  | done (e : ClassExpr) (rest : Text)
  /-- There is more to read. -/
  | more (p : Progress) (rest : Text)

/-- An item: a character, a class or a range between two characters. -/
def itemOfEscape? : Escape → Option ClassExpr
  | .char c => some (range c c)
  | .set s => some (closed s)
  | .assertion _ => Option.none

/-- A character as such or escaped, or an escaped class, and the text after it. -/
def primitive? : Text → Option (Escape × Text)
  | [] => Option.none
  | '\\' :: rest => Escape.read? rest
  | c :: rest => some (.char c, rest)

/-- An item at the start of the text and the text after it. A hyphen makes a range unless a
closing bracket or another hyphen follows. -/
def item? (text : Text) : Option (ClassExpr × Text) := do
  let (first, rest) ← primitive? text
  let single := (itemOfEscape? first).map fun e => (e, rest)
  match rest with
  | [] => Option.none
  | '-' :: ']' :: _ => single
  | '-' :: '-' :: _ => single
  | '-' :: after =>
    let (second, rest) ← primitive? after
    match first, second with
    | .char lo, .char hi => if lo ≤ hi then some (range lo hi, rest) else Option.none
    | _, _ => Option.none
  | _ => single

/-- A class of ASCII characters such as `[:alpha:]` at the start of the text. -/
def ascii? : Text → Option (ClassExpr × Text)
  | '[' :: ':' :: rest =>
    let (negated, rest) :=
      match rest with
      | '^' :: rest => (true, rest)
      | _ => (false, rest)
    match rest.dropWhile (· ≠ ':') with
    | ':' :: ']' :: after =>
      (CharSet.asciiClass? (rest.takeWhile (· ≠ ':'))).map fun s => (ascii s negated, after)
    | _ => Option.none
  | _ => Option.none

/-- The items that are literal because they stand first: hyphens, or else a closing
bracket. -/
def leading (rest : Text) : ClassExpr × Text :=
  match rest with
  | '-' :: _ => (range '-' '-', rest.dropWhile (· == '-'))
  | ']' :: after => (range ']' ']', after)
  | _ => (none, rest)

/-- Opens a bracket; the text begins after it. -/
def openBracket (p : Progress) (text : Text) : Progress × Text :=
  let (negated, rest) :=
    match text with
    | '^' :: rest => (true, rest)
    | _ => (false, text)
  let (items, rest) := leading rest
  (⟨items, .bracket p.items negated :: p.waiting⟩, rest)

/-- The items with the operator applied that waits for them, and what else waits. -/
def closeOperator (p : Progress) : ClassExpr × List Waiting :=
  match p.waiting with
  | .operator op left :: waiting => (combine op left p.items, waiting)
  | waiting => (p.items, waiting)

/-- Closes a bracket. -/
def closeBracket (p : Progress) (rest : Text) : Option StepResult :=
  match closeOperator p with
  | (e, [.bracket _ negated]) => some (.done (bracket negated e) rest)
  | (e, .bracket outer negated :: waiting) =>
    some (.more ⟨both outer (bracket negated e), waiting⟩ rest)
  | _ => Option.none

/-- Puts an operator behind what was read. -/
def openOperator (p : Progress) (op : ClassOp) (rest : Text) : StepResult :=
  let (left, waiting) := closeOperator p
  .more ⟨none, .operator op left :: waiting⟩ rest

/-- Reads one piece of a class. -/
def step (p : Progress) (text : Text) : Option StepResult :=
  match text with
  | '[' :: rest =>
    match ascii? text with
    | some (e, rest) => some (.more { p with items := both p.items e } rest)
    | Option.none =>
      let (p, rest) := openBracket p rest
      some (.more p rest)
  | ']' :: rest => closeBracket p rest
  | '&' :: '&' :: rest => some (openOperator p .intersection rest)
  | '-' :: '-' :: rest => some (openOperator p .difference rest)
  | '~' :: '~' :: rest => some (openOperator p .symmetricDifference rest)
  | _ => (item? text).map fun (e, rest) => .more { p with items := both p.items e } rest

/-- Reads a class to the end of its outermost bracket. Every step reads something. -/
def readFrom (p : Progress) (text : Text) : Option (ClassExpr × Text) :=
  match step p text with
  | some (.done e rest) => some (e, rest)
  | some (.more p rest) => if _h : rest.length < text.length then readFrom p rest else Option.none
  | Option.none => Option.none
termination_by text.length

/-- The class whose opening bracket stood before the text, and the text after it. -/
def read? (text : Text) : Option (ClassExpr × Text) :=
  let (p, rest) := openBracket ⟨none, []⟩ text
  readFrom p rest

end ClassExpr

end Playbook.Pattern
