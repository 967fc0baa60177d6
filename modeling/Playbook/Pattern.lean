import Playbook.Engine

/-!
# Playbook.Pattern

Patterns of steps. The text of a pattern is a regular expression that is searched for in a
sentence, or a literal text that the sentence has to equal; either way an engine makes it into
an expression once, and every match gives captures.

Design points:

* A literal text is read as a regular expression too: every character with a meaning of its
  own is escaped, and an anchor stands on either side.
* Captures are taken in two passes: the positional ones from the groups of the match, the
  named ones from the names of the expression.
-/

namespace Playbook

/-! ### Modes -/

/-- How the text of a pattern is meant. -/
inductive PatternKind
  /-- A regular expression, searched for within the sentence. -/
  | regex
  /-- A text that equals the sentence. -/
  | literal
  deriving DecidableEq, Repr

namespace PatternKind

/-- The name of a mode. -/
def name : PatternKind → Text
  | regex => "regex".toList
  | literal => "literal".toList

/-- The mode with a name; white space around the name and the case of ASCII letters do not
matter, and each mode has a second name. The error is the name that is not known. -/
def ofName (text : Text) : Except Text PatternKind :=
  let name := Text.trim text
  match String.ofList (name.map Char.toLower) with
  | "regex" => .ok regex
  | "regexp" => .ok regex
  | "literal" => .ok literal
  | "exact" => .ok literal
  | _ => .error name

/-- The wording for a name that is not known. -/
def unknownMessage (name : Text) : Text :=
  "unknown pattern mode '".toList ++ name ++ "', expected 'regex' or 'literal'".toList

end PatternKind

/-! ### Compilation -/

/-- Why a text is no pattern. -/
inductive PatternDefect
  | empty
  /-- It is no regular expression, for a reason that the engine gives. -/
  | malformed (text reason : Text)
  deriving DecidableEq, Repr

/-- The wording of a pattern error. -/
def PatternDefect.message : PatternDefect → Text
  | empty => "step pattern must not be empty".toList
  | malformed text reason =>
    "cannot compile step pattern '".toList ++ text ++ "': ".toList ++ reason

/-- A pattern: an expression that is searched for. -/
structure Pattern (E : Engine) where
  regex : E.Regex

namespace Pattern

/-- The regular expression for a pattern text. -/
def source (E : Engine) (text : Text) : PatternKind → Text
  | .regex => text
  | .literal => '^' :: E.escape text ++ ['$']

/-- The pattern of a text. -/
def compile (E : Engine) (mode : PatternKind) (text : Text) : Except PatternDefect (Pattern E) :=
  if text.isEmpty then .error .empty
  else
    match E.new (source E text mode) with
    | .ok regex => .ok ⟨regex⟩
    | .error reason => .error (.malformed text reason)

end Pattern

/-! ### Captures -/

/-- What the groups of a pattern have matched in a sentence. -/
structure Captures where
  /-- The text of every group but the whole pattern, in order; empty for a group that took no
  part. -/
  positional : List Text
  /-- The names and texts of the groups with a name that took part. -/
  named : List (Text × Text)
  deriving DecidableEq, Repr

namespace Captures

/-- No captures. -/
def empty : Captures := ⟨[], []⟩

/-- The text of the group with a name. -/
def get? (c : Captures) (name : Text) : Option Text := c.named.lookup name

end Captures

namespace Pattern

variable {E : Engine}

/-- The captures of a match. -/
def extract (p : Pattern E) (found : E.Found) : Captures where
  positional := ((E.groups found).drop 1).map (·.getD [])
  named := ((E.names p.regex).filterMap id).filterMap fun name =>
    (E.named? found name).map (name, ·)

/-- The captures of the leftmost match in a text, if there is a match. -/
def captures? (p : Pattern E) (text : Text) : Option Captures :=
  (E.find? p.regex text).map p.extract

end Pattern

end Playbook
