import Playbook.Feature
import Playbook.Placeholder

/-!
# Playbook.Expansion

The scenarios that templates stand for: an outline gives one scenario for each row
of its examples, a loop gives one for each repetition. Generated scenarios take the
identifiers that follow a given first one.
-/

namespace Playbook

/-- What a template is expanded to. -/
structure Expansion where
  scenarios : List Scenario
  /-- What is reported while they are generated. -/
  events : List Event
  deriving DecidableEq, Repr

namespace Expansion

/-- The steps with their identifiers counted from one. -/
def numbered (steps : List Step) : List Step := steps.mapIdx fun i step => { step with id := i + 1 }

/-- The scenario that row number `row` of the examples gives. -/
def ofRow (template : Scenario) (columns : Row) (firstId row : Nat) (ex : Example) : Scenario where
  id := firstId + row
  sentence := template.sentence ++ " - row ".toList ++ Text.decimal row
  path := template.path
  line := ex.line
  tags := template.tags
  steps := numbered <| template.steps.map fun step =>
    { step with sentence := Placeholder.fill columns ex.data step.sentence }

/-- The scenarios of an outline, one for each row of examples. -/
def ofOutline (template : Scenario) (columns : Row) (examples : List Example) (firstId : Nat) :
    List Scenario :=
  examples.mapIdx fun row ex => ofRow template columns firstId row ex

/-- The scenario that repetition number `iteration` gives. -/
def ofIteration (template : Scenario) (firstId iteration : Nat) : Scenario where
  id := firstId + iteration
  sentence := template.sentence ++ " - iteration ".toList ++ Text.decimal iteration
  path := template.path
  line := template.line
  tags := template.tags
  steps := numbered template.steps

/-- The scenarios of a loop, one for each repetition. -/
def ofLoop (template : Scenario) (iterations firstId : Nat) : List Scenario :=
  (List.range iterations).map fun iteration => ofIteration template firstId iteration

@[simp] theorem length_ofOutline (template : Scenario) (columns : Row) (examples : List Example)
    (firstId : Nat) : (ofOutline template columns examples firstId).length = examples.length := by
  simp [ofOutline]

@[simp] theorem length_ofLoop (template : Scenario) (iterations firstId : Nat) :
    (ofLoop template iterations firstId).length = iterations := by
  simp [ofLoop]

/-! ### Events -/

def rowEvent (template row generated : Nat) : Event :=
  ⟨.trace, "outline ".toList ++ Text.decimal template ++ " row ".toList ++ Text.decimal row
    ++ " expanded as scenario ".toList ++ Text.decimal generated⟩

def loopEvent (template iterations : Nat) : Event :=
  ⟨.trace, "loop ".toList ++ Text.decimal template ++ " expanded ".toList
    ++ Text.decimal iterations ++ " times".toList⟩

/-- What is reported for one row of examples: the tokens of the template's steps that
name no column, then the generated scenario. -/
def rowEvents (template : Scenario) (columns : Row) (firstId row : Nat) (ex : Example) :
    List Event :=
  template.steps.flatMap (fun step => Placeholder.events columns ex.data step.sentence)
    ++ [rowEvent template.id row (firstId + row)]

/-! ### Templates -/

/-- The expansion of an outline. -/
def outline (template : Scenario) (columns : Row) (examples : List Example) (firstId : Nat) :
    Expansion where
  scenarios := ofOutline template columns examples firstId
  events := (examples.mapIdx fun row ex => rowEvents template columns firstId row ex).flatten

/-- The expansion of a loop. -/
def loop (template : Scenario) (iterations firstId : Nat) : Expansion where
  scenarios := ofLoop template iterations firstId
  events := [loopEvent template.id iterations]

end Expansion

end Playbook
