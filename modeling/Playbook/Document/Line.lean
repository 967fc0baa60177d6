import Playbook.Row
import Playbook.Tag
import Playbook.Vocabulary

/-!
# Playbook.Document.Line

What a single line of a feature file says, without regard to its neighbours.
`Line.read` is the only place that looks at the text of a line; everything after it
works on the `Line` it returns.

Design points:

* The tests are tried in a fixed order, from comments down to free text. Words of a
  vocabulary may overlap, and then the earlier test wins.
* A line that begins with a scenario keyword as a whole word and is no header is
  `badHeader`, so that a mistyped header is never taken for free text.
-/

namespace Playbook.Document

/-- The kind of block a scenario header opens. -/
inductive HeaderKind
  | plain
  | outline
  | loop (iterations : Nat)
  deriving DecidableEq, Repr

/-- What a line of a feature file says. -/
inductive Line
  /-- Nothing but white space. -/
  | blank
  /-- A remark, which begins with a number sign. -/
  | comment
  | tag (tag : Tag)
  | feature (sentence : Text)
  | scenario (kind : HeaderKind) (sentence : Text)
  /-- A scenario keyword that opens no valid header. -/
  | badHeader
  | examples
  | row (cells : Row)
  /-- A step, with the whole line. -/
  | step (kind : StepKind) (sentence : Text)
  /-- Any other text. -/
  | prose (text : Text)
  deriving DecidableEq, Repr

namespace Line

/-- The block header a trimmed line is, if it is one: an outline, else a loop, else a
plain scenario. -/
def header? (v : Vocabulary) (text : Text) : Option (HeaderKind × Text) :=
  ((Vocabulary.header? text v.outline).map fun sentence => (.outline, sentence)).or <|
    ((v.loopHeader? text).map fun (sentence, n) => (.loop n, sentence)).or <|
      (Vocabulary.header? text v.scenario).map fun sentence => (.plain, sentence)

/-- Whether a trimmed line begins with one of the scenario keywords as a whole word. -/
def namesScenario (v : Vocabulary) (text : Text) : Bool :=
  [v.outline, v.loop, v.scenario].any (Vocabulary.hasKeyword text)

/-- What a trimmed line says that is neither blank, a comment, a tag nor a header. -/
def readBody (v : Vocabulary) (text : Text) : Line :=
  if (Vocabulary.header? text v.examples).isSome then .examples
  else if text.head? = some Row.bar then .row (Row.ofLine text)
  else
    match v.stepKind? text with
    | some kind => .step kind text
    | none => .prose text

/-- What a trimmed line says that is neither blank nor a comment. -/
def readText (v : Vocabulary) (text : Text) : Line :=
  match Tag.ofLine? text with
  | some label => .tag label
  | none =>
    match Vocabulary.header? text v.feature with
    | some sentence => .feature sentence
    | none =>
      match header? v text with
      | some (kind, sentence) => .scenario kind sentence
      | none => if namesScenario v text then .badHeader else readBody v text

/-- What a line says. White space at its ends is ignored. -/
def read (v : Vocabulary) (line : Text) : Line :=
  match Text.trim line with
  | [] => .blank
  | c :: rest => if c = '#' then .comment else readText v (c :: rest)

end Line

end Playbook.Document
