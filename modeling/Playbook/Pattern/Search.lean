import Playbook.Pattern.Program
import Std.Data.HashSet

/-!
# Playbook.Pattern.Search

Running a machine over a text: the first match from the left, and at that start the
preferred one.

Design points:

* A search explores the pairs of an address and a place depth first, the preferred
  thread before the others, and no pair twice. The first thread that accepts is the
  answer: a pair that was explored without success stays without success.
* The threads that start at the places of the text, from left to right, lie on the stack
  from the beginning, so one exploration is the whole search.
* Every pair puts at most two threads on the stack, which bounds the number of steps.
-/

namespace Playbook.Pattern

/-- A place in a text, between two characters. -/
structure Place where
  /-- The number of characters to the left. -/
  index : Nat
  /-- The character to the left, if there is one. -/
  before : Option Char
  /-- The text to the right. -/
  rest : Text
  deriving DecidableEq, Repr

namespace Place

/-- The place before a text. -/
def start (text : Text) : Place := ⟨0, none, text⟩

/-- The places from a given one on, whose right side is the last argument. -/
def allFrom (index : Nat) (before : Option Char) : Text → List Place
  | [] => [⟨index, before, []⟩]
  | c :: rest => ⟨index, before, c :: rest⟩ :: allFrom (index + 1) (some c) rest

/-- Every place of a text, from left to right. -/
def all (text : Text) : List Place := allFrom 0 none text

/-- The place after the next character, if that is one of those asked for. -/
def read? (p : Place) (wanted : Char → Bool) : Option Place :=
  match p.rest with
  | [] => none
  | c :: rest => if wanted c then some ⟨p.index + 1, some c, rest⟩ else none

end Place

/-- The places that were noted, under their numbers; the latest comes first. -/
abbrev Marks := List (Nat × Nat)

/-- A run of the machine that has come to an address and a place. -/
structure Thread where
  address : Nat
  place : Place
  marks : Marks
  deriving DecidableEq, Repr

/-- What becomes of a thread in one step. -/
inductive StepResult
  /-- It has found a match. -/
  | found (marks : Marks)
  /-- It goes on as these threads, the preferred one first; it ends if there are none. -/
  | goesOn (threads : List Thread)
  deriving DecidableEq, Repr

namespace Program

/-- One step of a thread. -/
def step (p : Program) (t : Thread) : StepResult :=
  match p.code[t.address]? with
  | none => .goesOn []
  | some .accept => .found t.marks
  | some (.char c) =>
    .goesOn ((t.place.read? (· == c)).toList.map fun place => ⟨t.address + 1, place, t.marks⟩)
  | some (.set s) =>
    .goesOn ((t.place.read? s.contains).toList.map fun place => ⟨t.address + 1, place, t.marks⟩)
  | some (.check a) =>
    .goesOn <|
      if a.holds t.place.before t.place.rest.head? then [⟨t.address + 1, t.place, t.marks⟩] else []
  | some (.fork preferred other) =>
    .goesOn [⟨preferred, t.place, t.marks⟩, ⟨other, t.place, t.marks⟩]
  | some (.jump target) => .goesOn [⟨target, t.place, t.marks⟩]
  | some (.mark slot) => .goesOn [⟨t.address + 1, t.place, (slot, t.place.index) :: t.marks⟩]

/-- Runs the threads on the stack until one of them finds a match. `seen` holds the pairs
of an address and a place that were explored; the first argument bounds the number of
steps. -/
def explore (p : Program) : Nat → Std.HashSet (Nat × Nat) → List Thread → Option Marks
  | 0, _, _ => none
  | _, _, [] => none
  | n + 1, seen, t :: stack =>
    if seen.contains (t.address, t.place.index) then explore p n seen stack
    else
      match p.step t with
      | .found marks => some marks
      | .goesOn threads => explore p n (seen.insert (t.address, t.place.index)) (threads ++ stack)

/-- More steps than an exploration of a text of some length can take. -/
def stepBound (p : Program) (length : Nat) : Nat := (2 * p.code.size + 4) * (length + 1) + 1

/-- The marks of the leftmost, preferred match in a text. -/
def search (p : Program) (text : Text) : Option Marks :=
  p.explore (p.stepBound text.length) ∅ ((Place.all text).map fun place => ⟨0, place, []⟩)

/-- What a group has matched: the text between its latest marks. -/
def groupText? (marks : Marks) (text : Text) (index : Nat) : Option Text :=
  match marks.lookup (2 * index), marks.lookup (2 * index + 1) with
  | some first, some last => some ((text.drop first).take (last - first))
  | _, _ => none

end Program

end Playbook.Pattern
