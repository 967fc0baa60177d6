import Playbook.Document.Line
import Playbook.Expansion

/-!
# Playbook.Document.Draft

A feature that is being read. A draft takes the lines of a file one after the other,
each as the `Line` it was read as, and becomes a feature at the end.

Design points:

* The draft counts the lines it has taken, so an error names the line it was found on
  without being told.
* A block is expanded when it is closed, by the next header or by the end of the file;
  identifiers are therefore given out in document order.
* `Draft.place` decides by the state alone; it never looks at the text of a line.
* Where a table row belongs is read off the open block: to the examples as soon as an
  outline has begun them, to the last step while its table is open, and else to nothing.
-/

namespace Playbook.Document

/-! ### Errors -/

/-- What is wrong with the structure of a file. -/
inductive Defect
  | missingFeature
  | secondFeature
  | beforeFeature
  /-- An examples marker does not belong to an outline. -/
  | strayExamples
  /-- An outline ends without examples. -/
  | missingExamples
  /-- A row of examples is not as wide as the row that names the columns. -/
  | unevenRow (expected found : Nat)
  /-- A table row follows neither a step nor an examples marker. -/
  | strayRow
  | strayStep
  /-- A step follows the examples of its outline. -/
  | lateStep
  /-- A scenario keyword opens no valid header. -/
  | badHeader
  /-- A line has no meaning where it stands. -/
  | strayText (text : Text)
  /-- Tags are followed by something other than a header. -/
  | strayTags
  deriving DecidableEq, Repr

def Defect.message : Defect → Text
  | missingFeature => "no Feature found".toList
  | secondFeature => "only one Feature per feature file is supported".toList
  | beforeFeature => "expected a Feature header".toList
  | strayExamples => "Scenario does not support Examples. Use 'Scenario Outline'".toList
  | missingExamples => "Scenario Outline has no Examples table".toList
  | unevenRow expected found =>
    "Examples row has ".toList ++ Text.decimal found ++ " cells but the header has ".toList
      ++ Text.decimal expected
  | strayRow => "table row does not belong to a step".toList
  | strayStep => "step found outside of a scenario".toList
  | lateStep => "step found after the Examples table".toList
  | badHeader => "invalid scenario header".toList
  | strayText text => "unexpected line '".toList ++ text ++ "'".toList
  | strayTags => "tags must precede a Feature or Scenario header".toList

/-- A defect and the line it is blamed on. -/
structure Fault where
  line : Nat
  defect : Defect
  deriving DecidableEq, Repr

/-! ### The state -/

/-- A tag that waits for the header it belongs to. -/
structure WaitingTag where
  tag : Tag
  line : Nat
  deriving DecidableEq, Repr

/-- The header of the feature and the description below it. -/
structure Heading where
  sentence : Text
  line : Nat
  tags : List Tag
  description : List Text
  /-- Whether free text still belongs to the description. -/
  isOpen : Bool
  deriving DecidableEq, Repr

/-- The examples of an outline so far. -/
structure Examples where
  /-- The row that names the columns, once there is one. -/
  columns : Option Row
  rows : List Example
  deriving DecidableEq, Repr

/-- The kind of an open block. -/
inductive OpenKind
  | plain
  /-- An outline, with its examples once their marker was read. -/
  | outline (examples : Option Examples)
  | loop (iterations : Nat)
  deriving DecidableEq, Repr

/-- The block that is being read. -/
structure OpenBlock where
  kind : OpenKind
  /-- The header with the steps so far. -/
  scenario : Scenario
  /-- Whether the table of the last step may go on. -/
  tableOpen : Bool
  deriving DecidableEq, Repr

/-- A feature that is being read. -/
structure Draft where
  /-- How many lines were taken. -/
  line : Nat
  /-- The tags that wait for a header. -/
  waiting : List WaitingTag
  /-- The feature header, once it was read. -/
  heading : Option Heading
  blocks : List Block
  current : Option OpenBlock
  /-- The identifier the next scenario gets. -/
  nextId : Nat
  deriving DecidableEq, Repr

/-! ### Open blocks -/

namespace OpenBlock

/-- What a table row belongs to. -/
inductive Target
  | nothing
  | step
  | examples (examples : Examples)
  deriving DecidableEq, Repr

/-- What a table row belongs to while the block is open. -/
def target (b : OpenBlock) : Target :=
  match b.kind with
  | .outline (some examples) => .examples examples
  | _ => if b.tableOpen && !b.scenario.steps.isEmpty then .step else .nothing

/-- Whether the examples of the block have begun. -/
def hasExamples (b : OpenBlock) : Bool :=
  match b.kind with
  | .outline (some _) => true
  | _ => false

/-- The block that an open one becomes, with identifiers from `firstId` for what is
generated from it, and what is reported about it. Only an outline without a row that names
its columns becomes none. -/
def expand? (b : OpenBlock) (firstId : Nat) : Option (Block × List Event) :=
  match b.kind with
  | .plain => some (.scenario b.scenario, [])
  | .loop n =>
    let expansion := Expansion.loop b.scenario n firstId
    some (.loop b.scenario n expansion.scenarios, expansion.events)
  | .outline (some ⟨some columns, rows⟩) =>
    let expansion := Expansion.outline b.scenario columns rows firstId
    some (.outline b.scenario columns rows expansion.scenarios, expansion.events)
  | .outline _ => none

/-- The block alone. -/
def close? (b : OpenBlock) (firstId : Nat) : Option Block := (b.expand? firstId).map (·.1)

/-- How many scenarios the block generates when it is closed, if it can be. -/
def due? (b : OpenBlock) : Option Nat :=
  match b.kind with
  | .plain => some 0
  | .loop n => some n
  | .outline (some ⟨some _, rows⟩) => some rows.length
  | .outline _ => none

/-- The block with a step added, whose table is open. -/
def pushStep (b : OpenBlock) (kind : StepKind) (sentence path : Text) (line : Nat) : OpenBlock :=
  let steps := b.scenario.steps
  { b with
    tableOpen := true
    scenario := { b.scenario with
      steps := steps ++ [⟨steps.length + 1, kind, sentence, path, line, []⟩] } }

/-- The block with a row added to the table of its last step. -/
def pushRow (b : OpenBlock) (cells : Row) : OpenBlock :=
  match b.scenario.steps.getLast? with
  | some step =>
    { b with scenario := { b.scenario with
        steps := b.scenario.steps.dropLast ++ [{ step with table := step.table ++ [cells] }] } }
  | none => b

end OpenBlock

/-- A row of examples: the first one names the columns, the others must be as wide. -/
def Examples.push (examples : Examples) (cells : Row) (line : Nat) : Except Defect Examples :=
  match examples.columns with
  | none => .ok { examples with columns := some cells }
  | some columns =>
    if columns.length = cells.length then
      .ok { examples with rows := examples.rows ++ [⟨cells, line⟩] }
    else .error (.unevenRow columns.length cells.length)

namespace Draft

/-- The draft before the first line. -/
def start : Draft where
  line := 0
  waiting := []
  heading := none
  blocks := []
  current := none
  nextId := 1

/-- A defect of the line that was taken last. -/
def fault (d : Draft) (defect : Defect) : Fault := ⟨d.line, defect⟩

/-- The waiting tags without their lines. -/
def waitingTags (d : Draft) : List Tag := d.waiting.map (·.tag)

/-! ### Parts of the state that come to an end -/

/-- The draft with a closed block in the place of the open one. -/
def withClosed (d : Draft) (block : Block) : Draft :=
  { d with
    blocks := d.blocks ++ [block]
    current := none
    nextId := d.nextId + block.generated.length }

/-- Closes the open block, if there is one. -/
def closeBlock (d : Draft) : Except Fault Draft :=
  match d.current with
  | none => .ok d
  | some b =>
    match b.close? d.nextId with
    | some block => .ok (d.withClosed block)
    | none => .error ⟨b.scenario.line, .missingExamples⟩

/-- Ends the table of the last step. -/
def endTable (d : Draft) : Draft :=
  { d with current := d.current.map fun b => { b with tableOpen := false } }

/-- Ends the description. -/
def endDescription (d : Draft) : Draft :=
  { d with heading := d.heading.map fun h => { h with isOpen := false } }

/-! ### Taking a line -/

/-- A tag waits for the next header. It ends the description and the table of a step. -/
def takeTag (d : Draft) (tag : Tag) : Draft :=
  let d := d.endTable.endDescription
  { d with waiting := d.waiting ++ [⟨tag, d.line⟩] }

/-- The feature header takes the waiting tags and opens the description. -/
def takeFeature (d : Draft) (sentence : Text) : Except Fault Draft :=
  if d.heading.isSome then .error (d.fault .secondFeature)
  else .ok { d with waiting := [], heading := some ⟨sentence, d.line, d.waitingTags, [], true⟩ }

/-- What an open block of a header's kind starts as. -/
def openKind : HeaderKind → OpenKind
  | .plain => .plain
  | .outline => .outline none
  | .loop n => .loop n

/-- A header closes the block before it, ends the description, takes the waiting tags and
the next identifier, and opens a block. -/
def takeHeader (d : Draft) (path : Text) (kind : HeaderKind) (sentence : Text) :
    Except Fault Draft :=
  match d.closeBlock with
  | .error e => .error e
  | .ok d =>
    .ok { d.endDescription with
      waiting := []
      nextId := d.nextId + 1
      current := some {
        kind := openKind kind
        scenario := ⟨d.nextId, sentence, path, d.line, d.waitingTags, []⟩
        tableOpen := false } }

/-- An examples marker begins the examples of an outline that has none yet. -/
def takeExamples (d : Draft) (keyword : Text) : Except Fault Draft :=
  match d.current with
  | none => .error (d.fault .strayExamples)
  | some b =>
    match b.kind with
    | .outline none => .ok { d with current := some { b with kind := .outline (some ⟨none, []⟩) } }
    | .outline (some _) => .error (d.fault (.strayText keyword))
    | _ => .error (d.fault .strayExamples)

/-- A table row goes where the open block says. -/
def takeRow (d : Draft) (cells : Row) : Except Fault Draft :=
  match d.current with
  | none => .error (d.fault .strayRow)
  | some b =>
    match b.target with
    | .nothing => .error (d.fault .strayRow)
    | .step => .ok { d with current := some (b.pushRow cells) }
    | .examples examples =>
      match examples.push cells d.line with
      | .ok examples => .ok { d with current := some { b with kind := .outline (some examples) } }
      | .error defect => .error (d.fault defect)

/-- A step is added to the open block. -/
def takeStep (d : Draft) (path : Text) (kind : StepKind) (sentence : Text) :
    Except Fault Draft :=
  match d.current with
  | none => .error (d.fault .strayStep)
  | some b =>
    if b.hasExamples then .error (d.fault .lateStep)
    else .ok { d with current := some (b.pushStep kind sentence path d.line) }

/-- Free text belongs to the description while that is open. -/
def takeProse (d : Draft) (text : Text) : Except Fault Draft :=
  match d.heading with
  | none => .error (d.fault (.strayText text))
  | some h =>
    if h.isOpen then
      .ok { d with heading := some { h with description := h.description ++ [text] } }
    else .error (d.fault (.strayText text))

/-- Whether the description has begun and is still open, so that even a line that
begins with a step keyword belongs to it. -/
def inDescription (d : Draft) : Bool :=
  d.current.isNone && d.heading.any fun h => h.isOpen && !h.description.isEmpty

/-- Takes a line that is no header, below the feature header and without waiting
tags. -/
def placeBody (path examplesWord : Text) (d : Draft) : Line → Except Fault Draft
  | .examples => d.takeExamples examplesWord
  | .row cells => d.takeRow cells
  | .step kind sentence =>
    if d.inDescription then d.takeProse sentence else d.takeStep path kind sentence
  | .prose text => d.takeProse text
  | _ => .ok d

/-- Takes one line. `path` is the file that is read and `examplesWord` the keyword of
the examples marker. -/
def place (path examplesWord : Text) (draft : Draft) (line : Line) : Except Fault Draft :=
  let d := { draft with line := draft.line + 1 }
  match line with
  | .blank => .ok d.endTable
  | .comment => .ok d
  | .tag tag => .ok (d.takeTag tag)
  | .feature sentence => d.takeFeature sentence
  | .scenario kind sentence =>
    if d.heading.isNone then .error (d.fault .beforeFeature)
    else d.takeHeader path kind sentence
  | .badHeader =>
    if d.heading.isNone then .error (d.fault .beforeFeature)
    else .error (d.fault .badHeader)
  | body =>
    if d.heading.isNone then .error (d.fault .beforeFeature)
    else if !d.waiting.isEmpty then .error (d.fault .strayTags)
    else placeBody path examplesWord d body

/-! ### The end of the file -/

/-- The feature that was read. -/
def toFeature (path : Text) (id : Nat) (d : Draft) : Except Fault Feature :=
  match d.heading with
  | none => .error ⟨max d.line 1, .missingFeature⟩
  | some h =>
    match d.waiting with
    | first :: _ => .error ⟨first.line, .strayTags⟩
    | [] =>
      match d.closeBlock with
      | .error e => .error e
      | .ok d => .ok ⟨id, h.sentence, h.description, path, h.line, h.tags, d.blocks⟩

end Draft

end Playbook.Document
