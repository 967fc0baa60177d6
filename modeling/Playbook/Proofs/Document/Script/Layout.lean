import Mathlib.Algebra.GroupWithZero.Nat
import Playbook.Document
import Playbook.Proofs.Tag
import Playbook.Proofs.Text

/-!
# Playbook.Proofs.Document.Script.Layout

Feature files from the side of their author. A `Script` holds what an author decides:
tags, sentences, steps, tables, counts. `Script.text` writes it down, one item per line, in
the words of a vocabulary; `Script.toFeature` is the feature its author means, with the
lines, the identifiers and the expansions that the layout entails.

`Script.WellFormed` asks of a script only what keeps its parts apart once they are
written: no text breaks its line, and none looks like something that it is not.
-/

namespace Playbook

open Text (Trimmed)

/-! ### Scripts -/

namespace Script

/-- A step of a script. -/
structure Step where
  kind : StepKind
  /-- The spelling of the keyword. -/
  word : Text
  /-- What follows the keyword, if anything does. -/
  rest : Option Text
  /-- The rows below the step. -/
  table : List Row
  deriving DecidableEq, Repr

/-- What makes a block a plain scenario, a loop or an outline. -/
inductive Body
  | plain
  | loop (iterations : Nat)
  /-- An outline, with the columns of its examples and the rows below them. -/
  | outline (columns : Row) (rows : List Row)
  deriving DecidableEq, Repr

/-- A block of a script. -/
structure Block where
  tags : List Tag
  body : Body
  sentence : Text
  steps : List Step
  deriving DecidableEq, Repr

end Script

/-- A feature as its author thinks of it. -/
structure Script where
  tags : List Tag
  sentence : Text
  description : List Text
  blocks : List Script.Block
  deriving DecidableEq, Repr

/-! ### Layout -/

/-- Cells between bars, with a space on either side of each. -/
def Row.layout (cells : Row) : Text :=
  bar :: [bar].intercalate (cells.map fun cell => ' ' :: cell ++ [' ']) ++ [bar]

namespace Script

/-- A sentence below the words that introduce it. -/
def headed (opening sentence : Text) : Text := opening ++ ':' :: ' ' :: sentence

/-- The line of a step. -/
def Step.sentence (s : Step) : Text :=
  match s.rest with
  | some rest => s.word ++ ' ' :: rest
  | none => s.word

/-- The lines of a step and its table. -/
def Step.layout (s : Step) : List Text := s.sentence :: s.table.map Row.layout

/-- The words that introduce a block. -/
def Body.opening (v : Vocabulary) : Body → Text
  | plain => v.scenario
  | loop n => v.loop ++ ' ' :: Text.decimal n
  | outline _ _ => v.outline

/-- The lines of the examples, for an outline. -/
def Body.layout (v : Vocabulary) : Body → List Text
  | outline columns rows => (v.examples ++ [':']) :: (columns :: rows).map Row.layout
  | _ => []

/-- The lines of a block. -/
def Block.layout (v : Vocabulary) (b : Block) : List Text :=
  b.tags.map Tag.render ++ headed (b.body.opening v) b.sentence ::
    (b.steps.flatMap Step.layout ++ b.body.layout v)

/-- The lines of a script. -/
def layout (v : Vocabulary) (s : Script) : List Text :=
  s.tags.map Tag.render ++ headed v.feature s.sentence ::
    (s.description ++ s.blocks.flatMap (Block.layout v))

/-- The file a script is written to. -/
def text (v : Vocabulary) (s : Script) : Text := Text.ofLines (s.layout v)

/-! ### Meaning -/

/-- How many scenarios are generated from a block. -/
def Body.copies : Body → Nat
  | plain => 0
  | loop n => n
  | outline _ rows => rows.length

/-- How many identifiers a block takes. -/
def Block.idCount (b : Block) : Nat := 1 + b.body.copies

/-- How many identifiers a script takes. -/
def idCount (s : Script) : Nat := (s.blocks.map Block.idCount).sum

/-- How many lines a step takes. -/
def Step.height (s : Step) : Nat := 1 + s.table.length

/-- How many lines the examples take. -/
def Body.height : Body → Nat
  | outline _ rows => 2 + rows.length
  | _ => 0

/-- How many lines the tags, the header and the steps of a block take. -/
def Block.templateHeight (b : Block) : Nat := b.tags.length + 1 + (b.steps.map Step.height).sum

/-- How many lines a block takes. -/
def Block.height (b : Block) : Nat := b.templateHeight + b.body.height

/-- The steps that are meant, with identifiers from `id` on, the first one on `line`. -/
def placeSteps (path : Text) : Nat → Nat → List Step → List Playbook.Step
  | _, _, [] => []
  | id, line, s :: rest =>
    ⟨id, s.kind, s.sentence, path, line, s.table⟩ :: placeSteps path (id + 1) (line + s.height) rest

/-- The rows of examples that are meant, the first one on `line`. -/
def placeRows (line : Nat) (rows : List Row) : List Example :=
  rows.mapIdx fun i cells => ⟨cells, line + i⟩

/-- The header that is meant and the steps below it, for a block that begins on `line`. -/
def Block.placeHeader (path : Text) (line id : Nat) (b : Block) : Scenario where
  id := id
  sentence := b.sentence
  path := path
  line := line + b.tags.length
  tags := b.tags
  steps := placeSteps path 1 (line + b.tags.length + 1) b.steps

/-- The block that is meant: scenarios generated from its template take the identifiers
after that of the header, and rows of examples follow the marker and the columns. -/
def Block.place (path : Text) (line id : Nat) (b : Block) : Playbook.Block :=
  let header := b.placeHeader path line id
  match b.body with
  | .plain => .scenario header
  | .loop n => .loop header n (Expansion.ofLoop header n (id + 1))
  | .outline columns rows =>
    let examples := placeRows (line + b.templateHeight + 2) rows
    .outline header columns examples (Expansion.ofOutline header columns examples (id + 1))

/-- The blocks that are meant, the first one with `id` and on `line`. -/
def placeBlocks (path : Text) : Nat → Nat → List Block → List Playbook.Block
  | _, _, [] => []
  | line, id, b :: rest =>
    b.place path line id :: placeBlocks path (line + b.height) (id + b.idCount) rest

/-- The feature that is meant. -/
def toFeature (path : Text) (id : Nat) (s : Script) : Feature where
  id := id
  sentence := s.sentence
  description := s.description
  path := path
  line := s.tags.length + 1
  tags := s.tags
  blocks := placeBlocks path (s.tags.length + 1 + s.description.length + 1) 1 s.blocks

end Script

/-! ### Well-formed scripts -/

/-- The text is trimmed and stays on its line. -/
def Text.OnLine (text : Text) : Prop := Trimmed text ∧ '\n' ∉ text

instance (text : Text) : Decidable text.OnLine := inferInstanceAs (Decidable (_ ∧ _))

/-- The tag can be written on a line. -/
def Tag.Writable (label : Tag) : Prop := label.WellFormed ∧ ∀ a ∈ label.argument, '\n' ∉ a

instance (label : Tag) : Decidable label.Writable := inferInstanceAs (Decidable (_ ∧ _))

/-- The row has cells, and they can be told from the bars between them. -/
def Row.Writable (cells : Row) : Prop := cells ≠ [] ∧ ∀ cell ∈ cells, cell.OnLine ∧ bar ∉ cell

instance (cells : Row) : Decidable cells.Writable := inferInstanceAs (Decidable (_ ∧ _))

namespace Script

/-- The step begins with a spelling of its kind. -/
structure Step.WellFormed (v : Vocabulary) (s : Step) : Prop where
  word : s.word ∈ v.spellings s.kind
  rest : ∀ rest ∈ s.rest, rest ≠ [] ∧ rest.OnLine
  table : ∀ cells ∈ s.table, cells.Writable

instance (v : Vocabulary) (s : Step) : Decidable (s.WellFormed v) :=
  decidable_of_iff (s.word ∈ v.spellings s.kind ∧ (∀ rest ∈ s.rest, rest ≠ [] ∧ rest.OnLine) ∧
      ∀ cells ∈ s.table, cells.Writable)
    ⟨fun ⟨hw, hr, ht⟩ => ⟨hw, hr, ht⟩, fun ⟨hw, hr, ht⟩ => ⟨hw, hr, ht⟩⟩

/-- The rows of examples are as wide as the row of columns. -/
def Body.WellFormed : Body → Prop
  | outline columns rows =>
    columns.Writable ∧ ∀ cells ∈ rows, cells.Writable ∧ columns.length = cells.length
  | _ => True

instance : (body : Body) → Decidable body.WellFormed
  | .plain => isTrue trivial
  | .loop _ => isTrue trivial
  | .outline _ _ => inferInstanceAs (Decidable (_ ∧ _))

/-- The parts of the block can be written. -/
structure Block.WellFormed (v : Vocabulary) (b : Block) : Prop where
  tags : ∀ label ∈ b.tags, label.Writable
  body : b.body.WellFormed
  sentence : b.sentence.OnLine
  steps : ∀ s ∈ b.steps, s.WellFormed v

instance (v : Vocabulary) (b : Block) : Decidable (b.WellFormed v) :=
  decidable_of_iff ((∀ label ∈ b.tags, label.Writable) ∧ b.body.WellFormed ∧ b.sentence.OnLine ∧
      ∀ s ∈ b.steps, s.WellFormed v)
    ⟨fun ⟨ht, hb, hs, hp⟩ => ⟨ht, hb, hs, hp⟩, fun ⟨ht, hb, hs, hp⟩ => ⟨ht, hb, hs, hp⟩⟩

/-- The text can be a line of a description: it is neither a tag, a comment, a row nor a
header, and names no kind of scenario. -/
structure Describes (v : Vocabulary) (text : Text) : Prop where
  ne_nil : text ≠ []
  onLine : text.OnLine
  noTag : Tag.ofLine? text = none
  noComment : text.head? ≠ some '#'
  noRow : text.head? ≠ some Row.bar
  noFeature : Vocabulary.header? text v.feature = none
  noExamples : Vocabulary.header? text v.examples = none
  noKeyword : Document.Line.namesScenario v text = false

instance (v : Vocabulary) (text : Text) : Decidable (Describes v text) :=
  decidable_of_iff (text ≠ [] ∧ text.OnLine ∧ Tag.ofLine? text = none ∧ text.head? ≠ some '#' ∧
      text.head? ≠ some Row.bar ∧ Vocabulary.header? text v.feature = none ∧
      Vocabulary.header? text v.examples = none ∧ Document.Line.namesScenario v text = false)
    ⟨fun ⟨h₁, h₂, h₃, h₄, h₅, h₆, h₇, h₈⟩ => ⟨h₁, h₂, h₃, h₄, h₅, h₆, h₇, h₈⟩,
      fun ⟨h₁, h₂, h₃, h₄, h₅, h₆, h₇, h₈⟩ => ⟨h₁, h₂, h₃, h₄, h₅, h₆, h₇, h₈⟩⟩

/-- The parts of the script can be written, and its description does not begin with a
step. -/
structure WellFormed (v : Vocabulary) (s : Script) : Prop where
  tags : ∀ label ∈ s.tags, label.Writable
  sentence : s.sentence.OnLine
  description : ∀ text ∈ s.description, Describes v text
  first : ∀ text ∈ s.description.head?, v.stepKind? text = none
  blocks : ∀ b ∈ s.blocks, b.WellFormed v

instance (v : Vocabulary) (s : Script) : Decidable (s.WellFormed v) :=
  decidable_of_iff ((∀ label ∈ s.tags, label.Writable) ∧ s.sentence.OnLine ∧
      (∀ text ∈ s.description, Describes v text) ∧
      (∀ text ∈ s.description.head?, v.stepKind? text = none) ∧ ∀ b ∈ s.blocks, b.WellFormed v)
    ⟨fun ⟨ht, hs, hd, hf, hb⟩ => ⟨ht, hs, hd, hf, hb⟩,
      fun ⟨ht, hs, hd, hf, hb⟩ => ⟨ht, hs, hd, hf, hb⟩⟩

end Script

end Playbook
