import Playbook.Event
import Playbook.Row

/-!
# Playbook.Placeholder

Placeholders such as `<count>` in the sentences of an outline. A text is cut into
pieces, tokens and single characters, from left to right; a token whose inside
names a column is replaced by the cell of that column, and every other piece is
kept.

Design points:

* `pieces` is the only scanner: the substituted text and the names that were not
  found are two readings of the same list, so they cannot disagree.
* Replaced cells are part of the result and never of the text that is scanned.
-/

namespace Playbook.Placeholder

/-- A piece of a text with placeholders. -/
inductive Piece
  /-- A character outside of every token. -/
  | char (c : Char)
  /-- A token with its inside. -/
  | token (name : Text)
  deriving DecidableEq, Repr

/-- A token as it is written. -/
def written (name : Text) : Text := '<' :: name ++ ['>']

/-- The text before the first closing angle bracket and the text after it. -/
def upToClose? : Text → Option (Text × Text)
  | [] => none
  | c :: rest =>
    if c = '>' then some ([], rest)
    else (upToClose? rest).map fun (inside, after) => (c :: inside, after)

theorem eq_append_of_upToClose? {text inside after : Text}
    (h : upToClose? text = some (inside, after)) : text = inside ++ '>' :: after := by
  induction text generalizing inside with
  | nil => simp [upToClose?] at h
  | cons c rest ih =>
    by_cases hc : c = '>'
    · simp_all [upToClose?]
    · simp only [upToClose?, hc, if_false, Option.map_eq_some_iff, Prod.exists, Prod.mk.injEq] at h
      obtain ⟨tail, _, hrest, rfl, rfl⟩ := h
      simp [ih hrest]

/-- The inside of the token that stands at the very start of a text, and the text
after that token. A token is an opening angle bracket, a character that is neither
a closing one nor white space, and everything up to the next closing one. -/
def token? : Text → Option (Text × Text)
  | '<' :: c :: rest =>
    if c = '>' || Text.isBlank c then none
    else (upToClose? rest).map fun (inside, after) => (c :: inside, after)
  | _ => none

theorem eq_written_append_of_token? {text name after : Text}
    (h : token? text = some (name, after)) : text = written name ++ after := by
  unfold token? at h
  split at h
  · rename_i c rest
    split at h
    · simp at h
    · simp only [Option.map_eq_some_iff, Prod.exists, Prod.mk.injEq] at h
      obtain ⟨inside, _, hrest, rfl, rfl⟩ := h
      simp [written, eq_append_of_upToClose? hrest]
  · simp at h

theorem length_lt_of_token? {text name after : Text}
    (h : token? text = some (name, after)) : after.length < text.length := by
  simp [eq_written_append_of_token? h, written]; omega

/-- The pieces of a text, from left to right. -/
def pieces (text : Text) : List Piece :=
  match text with
  | [] => []
  | c :: rest =>
    match _h : token? (c :: rest) with
    | some (name, after) => .token name :: pieces after
    | none => .char c :: pieces rest
termination_by text.length
decreasing_by
  · exact length_lt_of_token? _h
  · simp

/-- The cell a name stands for: that of the first column of this name. -/
def cell? (columns row : Row) (name : Text) : Option Text := (columns.zip row).lookup name

/-- What a piece becomes for one row of examples. -/
def Piece.resolve (columns row : Row) : Piece → Text
  | .char c => [c]
  | .token name => (cell? columns row name).getD (written name)

/-- The name a piece asks for and does not find. -/
def Piece.missing? (columns row : Row) : Piece → Option Text
  | .char _ => none
  | .token name => if (cell? columns row name).isSome then none else some name

/-- The text with every token that names a column replaced by the cell of that column. -/
def fill (columns row : Row) (text : Text) : Text :=
  (pieces text).flatMap (Piece.resolve columns row)

/-- The insides of the tokens that name no column, from left to right. -/
def missing (columns row : Row) (text : Text) : List Text :=
  (pieces text).filterMap (Piece.missing? columns row)

def missingEvent (name : Text) : Event :=
  ⟨.warn, "placeholder ".toList ++ written name ++ " has no matching Examples column".toList⟩

def events (columns row : Row) (text : Text) : List Event :=
  (missing columns row text).map missingEvent

end Playbook.Placeholder
