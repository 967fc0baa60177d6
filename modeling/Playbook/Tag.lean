import Playbook.Text.Basic

/-!
# Playbook.Tag

Tags such as `@slow` and `@issue(42)`: a name, and an argument in parentheses
that may be left out. `Tag.ofLine?` reads the tag a line begins with and
`Tag.render` writes a tag.
-/

namespace Playbook

/-- A label on a feature or a scenario. -/
structure Tag where
  name : Text
  /-- The text between the parentheses, if there are any. -/
  argument : Option Text
  deriving DecidableEq, Repr

namespace Tag

/-- The characters of a tag's name: neither white space nor an opening parenthesis. -/
def isNameChar (c : Char) : Bool := !Text.isBlank c && c != '('

/-- The text between an opening parenthesis at the very start and the first closing
one. -/
def argument? : Text → Option Text
  | '(' :: rest => if ')' ∈ rest then some (rest.takeWhile (· ≠ ')')) else none
  | _ => none

/-- The tag a line begins with, white space aside: an at sign, the longest name that
follows it, and the argument directly after the name. What comes later on the line
is ignored. -/
def ofLine? (line : Text) : Option Tag :=
  match Text.trim line with
  | '@' :: rest =>
    match rest.takeWhile isNameChar with
    | [] => none
    | name => some ⟨name, argument? (rest.dropWhile isNameChar)⟩
  | _ => none

/-- The tag as it is written. -/
def render (tag : Tag) : Text :=
  match tag.argument with
  | some argument => '@' :: tag.name ++ '(' :: argument ++ [')']
  | none => '@' :: tag.name

end Tag

end Playbook
