import Playbook.Hooks
import Playbook.Registry

/-!
# Playbook.Run

Running a feature: its runnable scenarios one after the other, every step resolved and
called, with the hooks around the run, the feature, the scenarios and the steps.

Design points:

* A run is a list of entries. `itinerary` is the list of a run in which no hook stops it. Steps
  and hooks of a run depend on their arguments alone: the only state is that of type `Unit`. So
  this list is known before anything runs.
* `walk` cuts the itinerary after the first hook that does not succeed. A step that fails
  or cannot be resolved leaves an entry and stops nothing.
-/

namespace Playbook

/-- The steps and hooks of a run. -/
structure Equipment (E : Engine) (π : Type) where
  steps : Registry E Unit
  hooks : HookTable Unit π

namespace Run

variable {E : Engine} {π : Type}

/-- How a step ended. -/
inductive StepResult
  | passed
  | failed (message : Text)
  | unresolved (error : StepError)
  deriving DecidableEq, Repr

/-- What happens in a run. -/
inductive Entry (π : Type)
  | hook (timing : Moment) (scope : Scope) (hook : Hook Unit π) (args : Forwarded π)
  | step (action : StepAction Unit) (input : StepInput)
  /-- A step of a scenario has ended. -/
  | result (scenarioId stepId : Nat) (result : StepResult)

namespace Entry

/-- The error of an entry that stops the run: a hook that does not succeed. -/
def error? : Entry π → Option HookStop
  | hook timing scope h args =>
    (h.call args ()).1.map fun cause => ⟨h.name, h.location, timing, scope, cause⟩
  | step _ _ => none
  | result _ _ _ => none

/-- What is reported about an entry. -/
def events : Entry π → List Event
  | hook timing scope h _ => [HookTable.runEvent timing scope h]
  | step action input => [Registry.runEvent action input.step]
  | result _ _ _ => []

end Entry

/-! ### The itinerary -/

/-- The calls of the hooks of a timing and a scope. -/
def hookEntries (r : Equipment E π) (timing : Moment) (scope : Scope) (args : Forwarded π) :
    List (Entry π) :=
  (r.hooks.hooks timing scope).map fun hook => .hook timing scope hook args

/-- Some entries between the hooks of a scope. -/
def around (r : Equipment E π) (scope : Scope) (args : Forwarded π) (inner : List (Entry π)) :
    List (Entry π) :=
  hookEntries r .before scope args ++ inner ++ hookEntries r .after scope args

/-- A step is resolved, called if that succeeds, and ends. -/
def stepEntries (r : Equipment E π) (scenarioId : Nat) (step : Step) : List (Entry π) :=
  match r.steps.find step with
  | .error e => [.result scenarioId step.id (.unresolved e)]
  | .ok m =>
    let result :=
      match (m.run step ()).1 with
      | some message => StepResult.failed message
      | none => .passed
    [.step m.entry.action (m.input step), .result scenarioId step.id result]

/-- A scenario with the hooks around it and around its steps. -/
def scenarioEntries (r : Equipment E π) (s : Scenario) : List (Entry π) :=
  around r .eachScenario (.scenario s) <|
    s.steps.flatMap fun step => around r .eachStep (.step step) (stepEntries r s.id step)

/-- Everything that happens in a run of a feature that no hook stops. -/
def itinerary (r : Equipment E π) (f : Feature) : List (Entry π) :=
  around r .all .nothing <|
    around r .eachFeature (.feature f) (f.runnable.flatMap (scenarioEntries r))

/-! ### The walk -/

/-- What is known after a run: what happened, and the error that stopped it. -/
structure Walk (π : Type) where
  entries : List (Entry π)
  error : Option HookStop

/-- The entries up to and including the first that stops the run. -/
def cut : List (Entry π) → Walk π
  | [] => ⟨[], none⟩
  | entry :: rest =>
    match entry.error? with
    | some e => ⟨[entry], some e⟩
    | none =>
      let walk := cut rest
      ⟨entry :: walk.entries, walk.error⟩

/-- Runs a feature. -/
def walk (r : Equipment E π) (f : Feature) : Walk π := cut (itinerary r f)

/-! ### Events -/

/-- The report that no more steps and hooks are registered. -/
def sealEvent (r : Equipment E π) : Event :=
  ⟨.debug, "freezing ".toList ++ Text.decimal r.steps.size ++ " step(s) and ".toList
    ++ Text.decimal r.hooks.size ++ " hook(s)".toList⟩

/-- What is reported in a run. -/
def Walk.events (w : Walk π) : List Event := w.entries.flatMap Entry.events

end Run

end Playbook
