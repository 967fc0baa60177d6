import Playbook.Callback
import Playbook.Event
import Playbook.Feature
import Playbook.Text.Quoted

/-!
# Playbook.Hooks

Hooks: callbacks that run before or after the whole run, a feature, a scenario or a step.
Every pair of a timing and a scope has a list of its own, which runs in the order of
registration and stops at the first hook that does not succeed. A hook finds the state that the
hooks before it have left.
-/

namespace Playbook

/-! ### Timings and scopes -/

/-- Whether a hook runs before or after its scope. -/
inductive Moment
  | before
  | after
  deriving DecidableEq, Repr

/-- What a hook runs before or after. -/
inductive Scope
  /-- The whole run. -/
  | all
  | eachFeature
  | eachScenario
  | eachStep
  deriving DecidableEq, Repr

/-- A name that is no timing or scope. -/
structure UnknownName where
  /-- What the name was read as. -/
  kind : Text
  value : Text
  deriving DecidableEq, Repr

def UnknownName.message (e : UnknownName) : Text :=
  "unknown hook ".toList ++ e.kind ++ " '".toList ++ e.value ++ "'".toList

namespace Moment

def both : List Moment := [before, after]

def name : Moment → Text
  | before => "before".toList
  | after => "after".toList

/-- The timing with exactly this name. -/
def ofName (text : Text) : Except UnknownName Moment :=
  match both.find? fun timing => timing.name == text with
  | some timing => .ok timing
  | none => .error ⟨"timing".toList, text⟩

end Moment

namespace Scope

/-- Every scope, from the widest to the narrowest. -/
def every : List Scope := [all, eachFeature, eachScenario, eachStep]

def name : Scope → Text
  | all => "all".toList
  | eachFeature => "each_feature".toList
  | eachScenario => "each_scenario".toList
  | eachStep => "each_step".toList

/-- The scope with exactly this name. -/
def ofName (text : Text) : Except UnknownName Scope :=
  match every.find? fun scope => scope.name == text with
  | some scope => .ok scope
  | none => .error ⟨"scope".toList, text⟩

end Scope

/-! ### Hooks -/

/-- What is forwarded to the hooks of a call. -/
inductive Forwarded (π : Type)
  | nothing
  | feature (f : Feature)
  | scenario (s : Scenario)
  | step (s : Step)
  /-- A value of the caller's own. -/
  | payload (value : π)
  deriving DecidableEq, Repr

namespace Forwarded

variable {π : Type}

def feature? : Forwarded π → Option Feature
  | feature f => some f
  | _ => none

def scenario? : Forwarded π → Option Scenario
  | scenario s => some s
  | _ => none

def step? : Forwarded π → Option Step
  | step s => some s
  | _ => none

def payload? : Forwarded π → Option π
  | payload value => some value
  | _ => none

end Forwarded

/-- A callback around a scope. -/
structure Hook (σ π : Type) where
  name : Text
  location : Location
  run : Callback σ (Forwarded π)

namespace Hook

variable {σ π : Type}

/-- What is reported when a hook ends, if it does not succeed. -/
def reported? : Outcome → Option Text
  | .ok => none
  | .failed message => some message
  | .panicked payload => some payload.text

/-- Calls the hook: what is reported if it does not succeed, and the state it leaves. -/
def call (h : Hook σ π) (args : Forwarded π) (s : σ) : Option Text × σ :=
  let (outcome, s) := h.run args s
  (reported? outcome, s)

/-- How the text begins that shows the hook to programmers: up to its name. -/
def debugText (h : Hook σ π) : Text := "Hook \x7b name: ".toList ++ Text.Quoted.quote h.name

end Hook

/-- A hook that did not succeed. -/
structure HookStop where
  hook : Text
  location : Location
  timing : Moment
  scope : Scope
  cause : Text
  deriving DecidableEq, Repr

def HookStop.message (e : HookStop) : Text :=
  "Hook '".toList ++ e.hook ++ "' from ".toList ++ e.location.render ++ " raised: ".toList
    ++ e.cause

/-! ### The registry of hooks -/

/-- The hooks of every timing and scope, each list in the order of registration. -/
structure HookTable (σ π : Type) where
  hooks : Moment → Scope → List (Hook σ π)

namespace HookTable

variable {σ π : Type}

def empty : HookTable σ π := ⟨fun _ _ => []⟩

/-- Adds a hook at the end of the list of its timing and scope. -/
def register (r : HookTable σ π) (timing : Moment) (scope : Scope) (hook : Hook σ π) :
    HookTable σ π where
  hooks t s := if t = timing ∧ s = scope then r.hooks t s ++ [hook] else r.hooks t s

/-- The lists of all pairs, with their timings and scopes. -/
def lists (r : HookTable σ π) : List (Moment × Scope × List (Hook σ π)) :=
  Moment.both.flatMap fun timing =>
    Scope.every.map fun scope => (timing, scope, r.hooks timing scope)

def size (r : HookTable σ π) : Nat := (r.lists.flatMap fun (_, _, hooks) => hooks).length

/-- What is known after a call: the hooks that were called, the error of the last of them if it
did not succeed, and the state it left. -/
structure Call (σ π : Type) where
  called : List (Hook σ π)
  error : Option HookStop
  state : σ

/-- Calls hooks one after the other up to the first that does not succeed. -/
def callList (timing : Moment) (scope : Scope) (args : Forwarded π) :
    List (Hook σ π) → σ → Call σ π
  | [], s => ⟨[], none, s⟩
  | hook :: rest, s =>
    match hook.call args s with
    | (some cause, s) => ⟨[hook], some ⟨hook.name, hook.location, timing, scope, cause⟩, s⟩
    | (none, s) =>
      let call := callList timing scope args rest s
      { call with called := hook :: call.called }

/-- Calls the hooks of a timing and a scope. -/
def call (r : HookTable σ π) (timing : Moment) (scope : Scope) (args : Forwarded π) (s : σ) :
    Call σ π :=
  callList timing scope args (r.hooks timing scope) s

/-! ### Events -/

def registeredEvent (timing : Moment) (scope : Scope) (hook : Hook σ π) : Event :=
  ⟨.debug, "registered ".toList ++ timing.name ++ ' ' :: scope.name ++ " hook '".toList
    ++ hook.name ++ "' from ".toList ++ hook.location.render⟩

def runEvent (timing : Moment) (scope : Scope) (hook : Hook σ π) : Event :=
  ⟨.trace, "running ".toList ++ timing.name ++ ' ' :: scope.name ++ " hook '".toList
    ++ hook.name ++ "'".toList⟩

end HookTable

/-! ### Registering for one timing -/

/-- A registry together with the timing that further hooks are registered for. -/
structure HookSide (σ π : Type) where
  timing : Moment
  registry : HookTable σ π

variable {σ π : Type}

namespace HookTable

/-- Goes on with hooks that run before their scope. -/
def before (r : HookTable σ π) : HookSide σ π := ⟨.before, r⟩

/-- Goes on with hooks that run after their scope. -/
def after (r : HookTable σ π) : HookSide σ π := ⟨.after, r⟩

end HookTable

namespace HookSide

/-- Registers a hook for a scope. -/
def add (r : HookSide σ π) (scope : Scope) (hook : Hook σ π) : HookSide σ π :=
  { r with registry := r.registry.register r.timing scope hook }

def all (r : HookSide σ π) (hook : Hook σ π) : HookSide σ π := r.add .all hook

def eachFeature (r : HookSide σ π) (hook : Hook σ π) : HookSide σ π := r.add .eachFeature hook

def eachScenario (r : HookSide σ π) (hook : Hook σ π) : HookSide σ π :=
  r.add .eachScenario hook

def eachStep (r : HookSide σ π) (hook : Hook σ π) : HookSide σ π := r.add .eachStep hook

end HookSide

end Playbook
