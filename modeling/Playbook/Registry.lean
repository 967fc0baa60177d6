import Playbook.Callback
import Playbook.Event
import Playbook.Feature
import Playbook.Pattern
import Playbook.Text.Quoted

/-!
# Playbook.Registry

The registry of steps: patterns and what they are bound to. A step of a plan is resolved
by searching its sentence for every pattern; exactly one has to be found.

Design points:

* A registry holds its entries in the order of registration, and beside them an index from
  their texts to their positions. Patterns are told apart by their exact text, and a text is
  registered once at the most.
* A batch is prepared as a whole before any of it is added, so a failing batch adds nothing.
  A single registration is a batch of one.
* The engine `E` makes patterns and searches for them, and `σ` are the states of the program
  that its actions run in. Nothing here depends on what they are.
-/

namespace Playbook

/-! ### Actions -/

/-- What a step is called with. -/
structure StepInput where
  step : Step
  /-- What the pattern captured from its sentence. -/
  captures : Captures
  deriving DecidableEq, Repr

/-- The text of the group with a position, from zero. -/
def StepInput.capture? (input : StepInput) (index : Nat) : Option Text :=
  input.captures.positional[index]?

/-- A callback for steps. -/
structure StepAction (σ : Type) where
  name : Text
  location : Location
  run : Callback σ StepInput

namespace StepAction

variable {σ : Type}

/-- What is reported when an action with a name ends, if it does not succeed. A panic is
a failure that tells the name. -/
def reported? (name : Text) : Outcome → Option Text
  | .ok => none
  | .failed message => some message
  | .panicked payload => some ("step ".toList ++ name ++ " panicked: ".toList ++ payload.text)

/-- Calls the action: what is reported if it does not succeed, and the state it leaves. -/
def call (a : StepAction σ) (input : StepInput) (s : σ) : Option Text × σ :=
  let (outcome, s) := a.run input s
  (reported? a.name outcome, s)

/-- The action as it is shown to programmers. -/
def debugText (a : StepAction σ) : Text :=
  "StepImplementation \x7b name: ".toList ++ Text.Quoted.quote a.name
    ++ ", location: SourceLocation \x7b file: ".toList ++ Text.Quoted.quote a.location.file
    ++ ", line: ".toList ++ Text.decimal a.location.line ++ " \x7d, .. \x7d".toList

end StepAction

/-! ### Sources of actions -/

/-- A method that an object offers as a step. -/
structure OfferedStep (σ : Type) where
  name : Text
  /-- What the method says about itself. -/
  description : Text
  location : Location
  run : Callback σ StepInput

namespace OfferedStep

variable {σ : Type}

/-- The pattern of a method: the first line of its description that is not blank, trimmed. -/
def pattern? (m : OfferedStep σ) : Option Text :=
  ((Text.lines m.description).map Text.trim).find? fun line => !line.isEmpty

/-- The method as an action. -/
def action (m : OfferedStep σ) : StepAction σ := ⟨m.name, m.location, m.run⟩

end OfferedStep

/-- A pattern with what it is bound to. -/
abbrev StepBinding (σ : Type) := Text × StepAction σ

/-! ### Errors -/

/-- Why a step could not be registered or resolved. -/
inductive StepError
  | notAPattern (text name : Text) (cause : PatternDefect)
  | alreadyBound (text existing incoming : Text)
  /-- No pattern is found in the sentence. -/
  | notFound (sentence path : Text) (line : Nat)
  /-- More than one pattern is found in the sentence. -/
  | ambiguous (sentence path : Text) (line : Nat) (patterns : List Text)
  deriving DecidableEq, Repr

def StepError.message : StepError → Text
  | notAPattern _ name cause =>
    "Cannot register step ".toList ++ name ++ ": ".toList ++ cause.message
  | alreadyBound text existing incoming =>
    "Cannot register step ".toList ++ incoming ++ " with regex '".toList ++ text
      ++ "' because it is already used by step ".toList ++ existing
  | notFound sentence path line =>
    "Cannot find step definition for step '".toList ++ sentence ++ "' in ".toList ++ path
      ++ ':' :: Text.decimal line
  | ambiguous sentence path line patterns =>
    "step '".toList ++ sentence ++ "' in ".toList ++ path ++ ':' :: Text.decimal line
      ++ " matches several step definitions: ".toList ++ ", ".toList.intercalate patterns

/-! ### The registry -/

/-- A registered pattern. -/
structure RegistryEntry (E : Engine) (σ : Type) where
  text : Text
  /-- What the text was made into. -/
  pattern : Pattern E
  action : StepAction σ

/-- A registry of steps. -/
structure Registry (E : Engine) (σ : Type) where
  /-- How the texts of patterns are meant. -/
  mode : PatternKind
  entries : List (RegistryEntry E σ)
  /-- The positions of the entries by their texts; the latest comes first. -/
  index : List (Text × Nat)

namespace Registry

variable {E : Engine} {σ : Type}

/-- A registry without entries. -/
def new (mode : PatternKind) : Registry E σ := ⟨mode, [], []⟩

def size (r : Registry E σ) : Nat := r.entries.length

/-- The entry that is registered under exactly this text. -/
def entryOf? (r : Registry E σ) (text : Text) : Option (RegistryEntry E σ) :=
  (r.index.lookup text).bind fun i => r.entries[i]?

/-- The action that is registered under exactly this text. -/
def get? (r : Registry E σ) (text : Text) : Option (StepAction σ) :=
  (r.entryOf? text).map (·.action)

/-! ### Registration -/

/-- The registry with an entry added at the end. -/
def add (r : Registry E σ) (entry : RegistryEntry E σ) : Registry E σ :=
  { r with
    entries := r.entries ++ [entry]
    index := (entry.text, r.entries.length) :: r.index }

/-- The registry with entries added at the end. -/
def append (r : Registry E σ) (entries : List (RegistryEntry E σ)) : Registry E σ :=
  entries.foldl add r

/-- The entry for a binding, whose text must be new to the registry and to the entries that
were prepared before it. -/
def prepare (r : Registry E σ) (prepared : List (RegistryEntry E σ)) (binding : StepBinding σ) :
    Except StepError (RegistryEntry E σ) :=
  let (text, action) := binding
  let before := prepared.find? fun entry => entry.text == text
  match (r.get? text).or (before.map (·.action)) with
  | some existing => .error (.alreadyBound text existing.name action.name)
  | none =>
    match Pattern.compile E r.mode text with
    | .ok pattern => .ok ⟨text, pattern, action⟩
    | .error cause => .error (.notAPattern text action.name cause)

/-- The entries for bindings, after those that were prepared before them; the first binding
that has none is the error. -/
def prepareAll (r : Registry E σ) (prepared : List (RegistryEntry E σ)) :
    List (StepBinding σ) → Except StepError (List (RegistryEntry E σ))
  | [] => .ok prepared
  | binding :: rest =>
    match r.prepare prepared binding with
    | .ok entry => prepareAll r (prepared ++ [entry]) rest
    | .error e => .error e

/-- Registers bindings, all or none, and tells how many they are. -/
def registerAll (r : Registry E σ) (bindings : List (StepBinding σ)) :
    Except StepError (Registry E σ × Nat) :=
  match r.prepareAll [] bindings with
  | .ok entries => .ok (r.append entries, entries.length)
  | .error e => .error e

def register (r : Registry E σ) (text : Text) (action : StepAction σ) :
    Except StepError (Registry E σ) :=
  (r.registerAll [(text, action)]).map (·.1)

/-- The bindings that an object's methods give: of those that are not to be ignored, the ones
with a description. -/
def bindingsOf (methods : List (OfferedStep σ)) (ignored : List Text) : List (StepBinding σ) :=
  (methods.filter fun m => !ignored.contains m.name).filterMap fun m =>
    m.pattern?.map fun text => (text, m.action)

/-- Registers the methods of an object, all or none. -/
def registerObject (r : Registry E σ) (methods : List (OfferedStep σ)) (ignored : List Text) :
    Except StepError (Registry E σ × Nat) :=
  r.registerAll (bindingsOf methods ignored)

/-! ### Declared steps -/

/-- Whether an action is not declared after another one: in an earlier file, or in the same
file and not on a later line. -/
def notAfter (a b : StepAction σ) : Bool :=
  if a.location.file = b.location.file then a.location.line ≤ b.location.line
  else a.location.file < b.location.file

/-- Bindings in the order of their places. -/
def inOrder (declared : List (StepBinding σ)) : List (StepBinding σ) :=
  declared.mergeSort fun a b => notAfter a.2 b.2

/-- Registers the steps that a program declares, by the order of their places, all or none. -/
def registerCollected (r : Registry E σ) (declared : List (StepBinding σ)) :
    Except StepError (Registry E σ × Nat) :=
  r.registerAll (inOrder declared)

/-! ### Resolution -/

/-- A step that was resolved. -/
structure Match (E : Engine) (σ : Type) where
  entry : RegistryEntry E σ
  captures : Captures

/-- The entries whose pattern is found in a sentence, with what it captures. -/
def hits (r : Registry E σ) (sentence : Text) : List (Match E σ) :=
  r.entries.filterMap fun entry =>
    (entry.pattern.captures? sentence).map fun captures => ⟨entry, captures⟩

/-- Resolves a step to the one entry whose pattern is found in its sentence. -/
def find (r : Registry E σ) (step : Step) : Except StepError (Match E σ) :=
  match r.hits step.sentence with
  | [] => .error (.notFound step.sentence step.path step.line)
  | [m] => .ok m
  | ms => .error (.ambiguous step.sentence step.path step.line (ms.map fun m => m.entry.text))

namespace Match

/-- What the action is called with. -/
def input (m : Match E σ) (step : Step) : StepInput := ⟨step, m.captures⟩

/-- Runs the step: what is reported if it does not succeed, and the state it leaves. -/
def run (m : Match E σ) (step : Step) (s : σ) : Option Text × σ :=
  m.entry.action.call (m.input step) s

end Match

/-! ### Events -/

def addedEvent (entry : RegistryEntry E σ) : Event :=
  ⟨.debug, "registered step ".toList ++ entry.action.name ++ " for pattern '".toList
    ++ entry.text ++ "' (".toList ++ entry.action.location.render ++ [')']⟩

/-- What is reported while bindings are registered. -/
def registerAllEvents (r : Registry E σ) (bindings : List (StepBinding σ)) : List Event :=
  match r.prepareAll [] bindings with
  | .ok entries => entries.map addedEvent
  | .error _ => []

def skippedEvent (m : OfferedStep σ) : Event :=
  ⟨.debug, "skipping step method ".toList ++ m.name ++ " without description".toList⟩

/-- What is reported while the methods of an object are registered. -/
def registerObjectEvents (r : Registry E σ) (methods : List (OfferedStep σ))
    (ignored : List Text) : List Event :=
  let considered := methods.filter fun m => !ignored.contains m.name
  (considered.filter fun m => m.pattern?.isNone).map skippedEvent
    ++ r.registerAllEvents (bindingsOf methods ignored)

def runEvent (action : StepAction σ) (step : Step) : Event :=
  ⟨.trace, "running step '".toList ++ step.sentence ++ "' with ".toList ++ action.name⟩

end Registry

end Playbook
