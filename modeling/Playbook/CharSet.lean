import Playbook.Character.CaseVariants
import Playbook.Character.Letters
import Playbook.Character.Numbers
import Playbook.Character.WordMarks
import Playbook.Text.Basic

/-!
# Playbook.CharSet

Sets of characters as lists of ranges of code points, with the operations that
character classes are written with, and the classes that have names.

Design points:

* The ranges of a set are in ascending order and neither overlap nor touch, so a set has
  one representation and a look-up stops at the first range above the character.
* Code points that are no characters may lie within a range; no look-up asks for them.
-/

namespace Playbook

/-- A set of characters, as ranges of code points with both ends included. -/
structure CharSet where
  /-- The ranges, in ascending order and apart from each other. -/
  ranges : List (Nat × Nat)
  deriving DecidableEq, Repr

namespace CharSet

/-! ### Membership -/

/-- Whether a code point lies in one of the ranges, which are in ascending order. -/
def inRanges (n : Nat) : List (Nat × Nat) → Bool
  | [] => false
  | (lo, hi) :: rest => if n < lo then false else if n ≤ hi then true else inRanges n rest

def hasCode (s : CharSet) (n : Nat) : Bool := inRanges n s.ranges

def contains (s : CharSet) (c : Char) : Bool := s.hasCode c.toNat

/-! ### Building sets -/

/-- Joins a range with the ranges after it that overlap or touch it. The ranges are
ordered by their lower ends. -/
def joinFrom (lo hi : Nat) : List (Nat × Nat) → List (Nat × Nat)
  | [] => [(lo, hi)]
  | (lo', hi') :: rest =>
    if lo' ≤ hi + 1 then joinFrom lo (max hi hi') rest else (lo, hi) :: joinFrom lo' hi' rest

/-- The set of the characters in any of the ranges, in whatever order they are given. -/
def ofRanges (ranges : List (Nat × Nat)) : CharSet :=
  match ranges.mergeSort fun a b => a.1 ≤ b.1 with
  | [] => ⟨[]⟩
  | (lo, hi) :: rest => ⟨joinFrom lo hi rest⟩

def empty : CharSet := ⟨[]⟩

/-- The set of the characters from `lo` to `hi`. -/
def range (lo hi : Char) : CharSet := ⟨[(lo.toNat, hi.toNat)]⟩

def single (c : Char) : CharSet := range c c

/-! ### Operations -/

def lastCode : Nat := 0x10FFFF

/-- The gaps between ranges, from a code point on. -/
def gaps (start : Nat) : List (Nat × Nat) → List (Nat × Nat)
  | [] => if start ≤ lastCode then [(start, lastCode)] else []
  | (lo, hi) :: rest =>
    if start < lo then (start, lo - 1) :: gaps (hi + 1) rest else gaps (hi + 1) rest

/-- The characters that are not in the set. -/
def complement (s : CharSet) : CharSet := ⟨gaps 0 s.ranges⟩

def union (a b : CharSet) : CharSet := ofRanges (a.ranges ++ b.ranges)

def inter (a b : CharSet) : CharSet := (a.complement.union b.complement).complement

def diff (a b : CharSet) : CharSet := a.inter b.complement

def symmDiff (a b : CharSet) : CharSet := (a.diff b).union (b.diff a)

/-! ### Case -/

/-- The pairs of code points that differ in case alone. -/
def casePairs : List (Nat × Nat) :=
  Character.caseRows.flatMap fun row =>
    (List.range ((row.last - row.first) / row.step + 1)).map fun k =>
      (row.first + k * row.step, row.first + k * row.step + row.offset)

/-- The set with the case variants of all its characters. -/
def caseClosure (s : CharSet) : CharSet :=
  s.union <| ofRanges <| casePairs.flatMap fun (a, b) =>
    (if s.hasCode a then [(b, b)] else []) ++ (if s.hasCode b then [(a, a)] else [])

/-! ### Named classes -/

/-- White space. -/
def blank : CharSet :=
  ⟨[(0x09, 0x0D), (0x20, 0x20), (0x85, 0x85), (0xA0, 0xA0), (0x1680, 0x1680), (0x2000, 0x200A),
    (0x2028, 0x2029), (0x202F, 0x202F), (0x205F, 0x205F), (0x3000, 0x3000)]⟩

def digit : CharSet := ⟨Character.decimalDigits⟩

/-- The characters that words are made of. -/
def word : CharSet := ofRanges (Character.alphabetic ++ Character.wordMarks)

def exceptNewline : CharSet := (single '\n').complement

def all : CharSet := empty.complement

def alphabetic : CharSet := ⟨Character.alphabetic⟩

/-- The characters that stand for numbers. -/
def numeric : CharSet := ofRanges (Character.decimalDigits ++ Character.otherNumbers)

/-- The classes of ASCII characters by name. -/
def asciiClass? (name : Text) : Option CharSet :=
  match String.ofList name with
  | "alnum" => some (ofRanges [(0x30, 0x39), (0x41, 0x5A), (0x61, 0x7A)])
  | "alpha" => some (ofRanges [(0x41, 0x5A), (0x61, 0x7A)])
  | "ascii" => some (ofRanges [(0, 0x7F)])
  | "blank" => some (ofRanges [(0x09, 0x09), (0x20, 0x20)])
  | "cntrl" => some (ofRanges [(0, 0x1F), (0x7F, 0x7F)])
  | "digit" => some (ofRanges [(0x30, 0x39)])
  | "graph" => some (ofRanges [(0x21, 0x7E)])
  | "lower" => some (ofRanges [(0x61, 0x7A)])
  | "print" => some (ofRanges [(0x20, 0x7E)])
  | "punct" => some (ofRanges [(0x21, 0x2F), (0x3A, 0x40), (0x5B, 0x60), (0x7B, 0x7E)])
  | "space" => some (ofRanges [(0x09, 0x0D), (0x20, 0x20)])
  | "upper" => some (ofRanges [(0x41, 0x5A)])
  | "word" => some (ofRanges [(0x30, 0x39), (0x41, 0x5A), (0x5F, 0x5F), (0x61, 0x7A)])
  | "xdigit" => some (ofRanges [(0x30, 0x39), (0x41, 0x46), (0x61, 0x66)])
  | _ => none

end CharSet

end Playbook
