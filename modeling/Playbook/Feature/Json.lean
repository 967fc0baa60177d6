import Playbook.Feature
import Playbook.Json

/-!
# Playbook.Feature.Json

The plan as a JSON value. Every record becomes an object whose members stand in the
order of its fields; a block is told apart by its first member, `kind`.
-/

namespace Playbook

/-- A list of texts as a JSON array. -/
def Json.strings (texts : List Text) : Json := .array (texts.map .string)

/-- A tag with its name and its argument, which is null if there is none. -/
def Tag.toJson (tag : Tag) : Json :=
  .object [
    ("name".toList, .string tag.name),
    ("argument".toList, match tag.argument with | some a => .string a | none => .null)]

def Step.toJson (step : Step) : Json :=
  .object [
    ("id".toList, .number step.id),
    ("keyword".toList, .string step.kind.name),
    ("sentence".toList, .string step.sentence),
    ("path".toList, .string step.path),
    ("line".toList, .number step.line),
    ("table".toList, .array (step.table.map Json.strings))]

namespace Scenario

def members (s : Scenario) : List (Text × Json) := [
  ("id".toList, .number s.id),
  ("sentence".toList, .string s.sentence),
  ("path".toList, .string s.path),
  ("line".toList, .number s.line),
  ("tags".toList, .array (s.tags.map Tag.toJson)),
  ("steps".toList, .array (s.steps.map Step.toJson))]

def toJson (s : Scenario) : Json := .object s.members

end Scenario

def Example.toJson (ex : Example) : Json :=
  .object [("data".toList, Json.strings ex.data), ("line".toList, .number ex.line)]

/-- A block: its kind, then the members of a plain scenario, or the template and what
belongs to it. -/
def Block.toJson : Block → Json
  | .scenario s => .object (("kind".toList, .string "scenario".toList) :: s.members)
  | .outline s columns examples generated =>
    .object [
      ("kind".toList, .string "outline".toList),
      ("template".toList, s.toJson),
      ("examples_header".toList, Json.strings columns),
      ("examples".toList, .array (examples.map Example.toJson)),
      ("scenarios".toList, .array (generated.map Scenario.toJson))]
  | .loop s iterations generated =>
    .object [
      ("kind".toList, .string "loop".toList),
      ("template".toList, s.toJson),
      ("iterations".toList, .number iterations),
      ("scenarios".toList, .array (generated.map Scenario.toJson))]

namespace Feature

def toJson (f : Feature) : Json :=
  .object [
    ("id".toList, .number f.id),
    ("sentence".toList, .string f.sentence),
    ("description".toList, Json.strings f.description),
    ("path".toList, .string f.path),
    ("line".toList, .number f.line),
    ("tags".toList, .array (f.tags.map Tag.toJson)),
    ("scenarios".toList, .array (f.blocks.map Block.toJson))]

/-- The feature as pretty JSON text. -/
def jsonText (f : Feature) : Text := f.toJson.pretty 0

end Feature

end Playbook
