import Playbook.Text.Basic

/-!
# Playbook.Event

What the library reports while it works: messages with a level. Functions of the
library return their events as values, in the order in which they happen.
-/

namespace Playbook

/-- How severe an event is, from the most severe down. -/
inductive Level
  | error
  | warn
  | info
  | debug
  | trace
  deriving DecidableEq, Repr

namespace Level

def name : Level → Text
  | error => "ERROR".toList
  | warn => "WARN".toList
  | info => "INFO".toList
  | debug => "DEBUG".toList
  | trace => "TRACE".toList

/-- The place of a level in the order of severity; zero is the most severe. -/
def rank : Level → Nat
  | error => 0
  | warn => 1
  | info => 2
  | debug => 3
  | trace => 4

end Level

/-- One reported message. -/
structure Event where
  level : Level
  message : Text
  deriving DecidableEq, Repr

namespace Event

/-- The events that are at least as severe as `level`, in order. -/
def atLeast (level : Level) (events : List Event) : List Event :=
  events.filter fun event => event.level.rank ≤ level.rank

end Event

end Playbook
