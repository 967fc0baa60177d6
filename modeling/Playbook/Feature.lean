import Playbook.Row
import Playbook.Tag
import Playbook.Vocabulary

/-!
# Playbook.Feature

The plan that is read from one feature file: a feature holds blocks, a block holds
scenarios, a scenario holds steps.

Design points:

* A block is a plain scenario, an outline or a loop. The last two hold a template,
  which never runs, and the scenarios that were generated from it, which do.
* Identifiers of scenarios are counted over the whole feature, in document order:
  the header of a block comes before the scenarios generated from it.
-/

namespace Playbook

/-- One action or assertion of a scenario. -/
structure Step where
  /-- The position within the scenario, from one. -/
  id : Nat
  /-- What the first words of the line make of the step. -/
  kind : StepKind
  /-- The whole line, keyword included. -/
  sentence : Text
  path : Text
  line : Nat
  /-- The rows of data below the step. -/
  table : List Row
  deriving DecidableEq, Repr

/-- A sequence of steps; also the template of an outline or a loop. -/
structure Scenario where
  /-- The identifier within the feature, from one. -/
  id : Nat
  sentence : Text
  path : Text
  /-- The line of the header, or of the row of examples it was generated from. -/
  line : Nat
  /-- The tags directly above the header. -/
  tags : List Tag
  steps : List Step
  deriving DecidableEq, Repr

/-- A row of examples of an outline. -/
structure Example where
  data : Row
  line : Nat
  deriving DecidableEq, Repr

/-- A block of a feature. -/
inductive Block
  /-- A plain scenario, which runs as it is. -/
  | scenario (header : Scenario)
  /-- A template with placeholders, the columns and rows of its examples, and one
  generated scenario for each row. -/
  | outline (header : Scenario) (columns : Row) (examples : List Example)
      (generated : List Scenario)
  /-- A template, how often it is repeated, and one generated scenario for each
  repetition. -/
  | loop (header : Scenario) (iterations : Nat) (generated : List Scenario)
  deriving DecidableEq, Repr

/-- What is read from one feature file. -/
structure Feature where
  /-- The identifier within a run, chosen by the caller. -/
  id : Nat
  sentence : Text
  /-- The free text below the header. -/
  description : List Text
  path : Text
  line : Nat
  /-- The tags above the header. -/
  tags : List Tag
  blocks : List Block
  deriving DecidableEq, Repr

/-! ### Tags -/

def Scenario.hasTag (s : Scenario) (name : Text) : Bool := s.tags.any fun tag => tag.name == name

def Feature.hasTag (f : Feature) (name : Text) : Bool := f.tags.any fun tag => tag.name == name

/-! ### Blocks -/

namespace Block

/-- The scenario itself, or the template of an outline or a loop. -/
def header : Block → Scenario
  | scenario s => s
  | outline s _ _ _ => s
  | loop s _ _ => s

/-- The scenarios generated from the template. -/
def generated : Block → List Scenario
  | scenario _ => []
  | outline _ _ _ ss => ss
  | loop _ _ ss => ss

/-- The scenarios of the block that run: a plain scenario itself, or the generated
ones. -/
def runnable : Block → List Scenario
  | scenario s => [s]
  | outline _ _ _ ss => ss
  | loop _ _ ss => ss

/-- Every scenario of the block, the header first. -/
def scenarios (b : Block) : List Scenario := b.header :: b.generated

/-- How many identifiers the block uses. -/
def idCount (b : Block) : Nat := 1 + b.generated.length

/-- The columns of the examples, for an outline. -/
def columns? : Block → Option Row
  | outline _ columns _ _ => some columns
  | _ => none

/-- The count, for a loop. -/
def iterations? : Block → Option Nat
  | loop _ n _ => some n
  | _ => none

/-- The scenario of the block with an identifier. -/
def find? (b : Block) (id : Nat) : Option Scenario := b.scenarios.find? fun s => s.id == id

@[simp] theorem length_scenarios (b : Block) : b.scenarios.length = b.idCount := by
  simp [scenarios, idCount, Nat.add_comm]

end Block

/-! ### Numbering and selection -/

/-- Why scenarios could not be selected. -/
inductive UnknownScenario
  /-- No scenario has the identifier; the identifiers go up to `total`. -/
  | scenarioNotFound (id total : Nat)
  deriving DecidableEq, Repr

def UnknownScenario.message : UnknownScenario → Text
  | scenarioNotFound id total =>
    "No scenario with id ".toList ++ Text.decimal id
      ++ " found. Specify a scenario id between 1 and ".toList ++ Text.decimal total

namespace Feature

/-- Every scenario in document order, templates before what is generated from them. -/
def scenarios (f : Feature) : List Scenario := f.blocks.flatMap Block.scenarios

/-- The scenarios that run, in document order. -/
def runnable (f : Feature) : List Scenario := f.blocks.flatMap Block.runnable

/-- How many scenario identifiers the feature uses. -/
def idCount (f : Feature) : Nat := (f.blocks.map Block.idCount).foldr (· + ·) 0

/-- The scenario with an identifier. -/
def scenario? (f : Feature) (id : Nat) : Option Scenario := f.blocks.findSome? fun b => b.find? id

/-- The scenarios with the given identifiers, in the order asked for. -/
def select (f : Feature) (ids : List Nat) : Except UnknownScenario (List Scenario) :=
  ids.mapM fun id =>
    match f.scenario? id with
    | some s => .ok s
    | none => .error (.scenarioNotFound id f.idCount)

@[simp] theorem length_scenarios (f : Feature) : f.scenarios.length = f.idCount := by
  simp only [scenarios, idCount, List.length_flatMap, Block.length_scenarios]
  rfl

end Feature

end Playbook
