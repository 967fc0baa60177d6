/-!
# Playbook.Text.Basic

Text as the library handles it: a list of characters. This module holds white
space and trimming, the split into lines, and decimal numerals.

Design points:

* Text is `List Char`, so every reader is a function on lists and is reasoned
  about with the standard list lemmas; strings occur only as literals.
* White space is the Unicode property `White_Space`. The zero width space
  U+200B and the byte order mark U+FEFF do not have it.
-/

namespace Playbook

/-- A piece of text, as its characters in order. -/
abbrev Text := List Char

namespace Text

instance : LawfulBEq Text := inferInstance

/-! ### White space -/

/-- White space: the 25 characters with the Unicode property `White_Space`. -/
def isBlank (c : Char) : Bool :=
  (9 ≤ c.toNat && c.toNat ≤ 13) || c.toNat == 0x20 || c.toNat == 0x85 || c.toNat == 0xA0
    || c.toNat == 0x1680 || (0x2000 ≤ c.toNat && c.toNat ≤ 0x200A) || c.toNat == 0x2028
    || c.toNat == 0x2029 || c.toNat == 0x202F || c.toNat == 0x205F || c.toNat == 0x3000

def trimStart (text : Text) : Text := text.dropWhile isBlank

def trimEnd (text : Text) : Text := (text.reverse.dropWhile isBlank).reverse

/-- The text without the white space at both of its ends. -/
def trim (text : Text) : Text := trimEnd (trimStart text)

@[simp] theorem trimStart_nil : trimStart [] = [] := rfl
@[simp] theorem trimEnd_nil : trimEnd [] = [] := rfl
@[simp] theorem trim_nil : trim [] = [] := rfl

/-- Whether the text is empty or begins with white space: where a word may end. -/
def endsWord : Text → Bool
  | [] => true
  | c :: _ => isBlank c

@[simp] theorem endsWord_nil : endsWord [] = true := rfl
@[simp] theorem endsWord_cons (c : Char) (text : Text) : endsWord (c :: text) = isBlank c := rfl

/-! ### Lines -/

/-- The lines of a text: the pieces between newlines, where a newline at the very
end closes the last line and begins no new one. A carriage return before a
newline stays at the end of its line; it is white space, and every reader of a
line trims the line first. -/
def lines (text : Text) : List Text :=
  let pieces := text.splitOn '\n'
  if pieces.getLast? = some [] then pieces.dropLast else pieces

/-- The byte order mark, which may precede the text of a file. -/
def byteOrderMark : Char := '\uFEFF'

/-- The text without one leading byte order mark. -/
def withoutMark : Text → Text
  | [] => []
  | c :: text => if c = byteOrderMark then text else c :: text

/-! ### Comparison and numerals -/

/-- Whether two texts are equal up to the case of ASCII letters. -/
def sameIgnoringCase (a b : Text) : Bool := a.map Char.toLower == b.map Char.toLower

/-- The decimal numeral of a number, without leading zeros. -/
def decimal (n : Nat) : Text := Nat.toDigits 10 n

/-- The largest number that counts and identifiers may reach, `2 ^ 64 - 1`. -/
def maxCount : Nat := UInt64.size - 1

/-- The number a text of ASCII digits denotes, if the text is not empty and the
number is at most `maxCount`. Leading zeros are allowed, signs are not. -/
def count? (text : Text) : Option Nat :=
  if text.isEmpty || !text.all Char.isDigit then none
  else
    let n := Nat.ofDigitChars 10 text 0
    if n ≤ maxCount then some n else none

end Text

end Playbook
