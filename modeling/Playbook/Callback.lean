import Playbook.Text.Basic

/-!
# Playbook.Callback

What steps and hooks have in common: they are callbacks that a program supplies, they are
declared somewhere in it, and they succeed, fail or panic. A callback may read and change what
the program keeps outside of its arguments, so it takes the state of the program and leaves one.
-/

namespace Playbook

/-! ### Outcomes -/

/-- The value that a panic carries. -/
inductive Payload
  | message (text : Text)
  /-- A number of one of the common integer types. -/
  | integer (n : Int)
  | other
  deriving DecidableEq, Repr

/-- The text for a payload: a message as it is, a number in decimal, and a fixed text for
anything else. -/
def Payload.text : Payload → Text
  | message text => text
  | integer (.ofNat n) => Text.decimal n
  | integer (.negSucc n) => '-' :: Text.decimal (n + 1)
  | other => "Any \x7b .. \x7d".toList

/-- How a call of a callback ends. -/
inductive Outcome
  | ok
  | failed (message : Text)
  | panicked (payload : Payload)
  deriving DecidableEq, Repr

/-- What a program supplies to be called, in a program with the states `σ`. -/
abbrev Callback (σ ι : Type) := ι → σ → Outcome × σ

/-- A callback that depends on its arguments alone and changes nothing. -/
def Callback.pure {σ ι : Type} (outcome : ι → Outcome) : Callback σ ι :=
  fun args s => (outcome args, s)

/-! ### Locations -/

/-- Where a callback is declared. -/
structure Location where
  file : Text
  line : Nat
  deriving DecidableEq, Repr

/-- A location as it is displayed. -/
def Location.render (l : Location) : Text := l.file ++ ':' :: Text.decimal l.line

end Playbook
