import Playbook.Document.Draft

/-!
# Playbook.Document.Passage

The passage of a draft through the lines of a file, with what is reported on the way, in a
program that can keep only so many scenarios.

Design points:

* Before a line is taken the block that it closes is expanded, so every block is expanded
  once and what its expansion reports is part of the log.
* Whether there is room is asked before anything is expanded. Where there is none the
  program stops: that is no fault of the file, and no error says so.
* The passage of a file through unbounded room is what `Draft.takeAll` and
  `Draft.toFeature` make of it.
-/

namespace Playbook

/-- How something ends that may be refused, and that may stop the program. -/
inductive Ending (ε α : Type)
  | done (value : α)
  | refused (error : ε)
  /-- There is no room left for what has to be kept. -/
  | stopped
  deriving DecidableEq, Repr

namespace Ending

variable {ε δ α β : Type}

def map (f : α → β) : Ending ε α → Ending ε β
  | done value => .done (f value)
  | refused error => .refused error
  | stopped => .stopped

def mapError (f : ε → δ) : Ending ε α → Ending δ α
  | done value => .done value
  | refused error => .refused (f error)
  | stopped => .stopped

end Ending

namespace Document

/-- Where the passage through a file has led. -/
structure Passage where
  ending : Ending Fault Feature
  /-- The identifier the next scenario would get. -/
  nextId : Nat
  /-- What was reported while blocks were expanded. -/
  log : Array Event
  deriving DecidableEq, Repr

namespace Draft

/-- Whether the open block is closed by a line, or by the end of the file if there is no
line any more. -/
def closes (d : Draft) : Option Line → Bool
  | some (.scenario _ _) => d.heading.isSome
  | some _ => false
  | none => d.heading.isSome && d.waiting.isEmpty

/-- How many scenarios the open block generates when it is closed, if it can be. -/
def due? (d : Draft) : Option Nat := d.current.elim (some 0) OpenBlock.due?

/-- How many identifiers a line gives out: those of the block that it closes, if that can be
closed, and then its own if it is a header. -/
def gives (d : Draft) (next : Option Line) : Nat :=
  if d.closes next then d.due?.elim 0 (· + next.toList.length) else 0

/-- Whether there is room for the scenarios that a line makes. `room` is how many scenarios the
program can keep, if that is bounded. -/
def hasRoom (room : Option Nat) (d : Draft) (next : Option Line) : Bool :=
  room.all fun room => d.nextId + d.gives next ≤ room + 1

/-- The draft with the open block closed, if it can be, and what is reported about that. -/
def expanded (d : Draft) : Draft × List Event :=
  match d.current.bind fun b => b.expand? d.nextId with
  | some (block, events) => (d.withClosed block, events)
  | none => (d, [])

/-- The draft that a line finds, and what is reported before the line is taken. -/
def before (d : Draft) (next : Option Line) : Draft × List Event :=
  if d.closes next then d.expanded else (d, [])

/-- Takes lines one after the other up to the end of the file, the first fault or the place
where there is no room. -/
def pass (room : Option Nat) (path examplesWord : Text) (id : Nat) (d : Draft)
    (log : Array Event) : List Line → Passage
  | [] =>
    if d.hasRoom room none then
      let (found, events) := d.before none
      match found.toFeature path id with
      | .ok f => ⟨.done f, found.nextId, log ++ events⟩
      | .error e => ⟨.refused e, found.nextId, log ++ events⟩
    else ⟨.stopped, d.nextId, log⟩
  | line :: rest =>
    if d.hasRoom room (some line) then
      let (found, events) := d.before (some line)
      match found.place path examplesWord line with
      | .ok next => pass room path examplesWord id next (log ++ events) rest
      | .error e => ⟨.refused e, found.nextId, log ++ events⟩
    else ⟨.stopped, d.nextId, log⟩

end Draft

end Document

end Playbook
