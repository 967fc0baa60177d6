import Playbook.Document
import Playbook.Event
import Playbook.Pattern

/-!
# Playbook.Settings

Two settings with defaults: how patterns are meant and the language of feature files. Each
may be given by an environment variable and is overridden by the program itself.
-/

namespace Playbook

/-- Where the settings come from. -/
structure Settings where
  /-- The mode that the program has set. -/
  modeOverride : Option PatternKind
  /-- The language that the program has set. -/
  languageOverride : Option Text
  /-- The value of the environment variable for the mode. -/
  modeVariable : Option Text
  /-- The value of the environment variable for the language. -/
  languageVariable : Option Text
  deriving DecidableEq, Repr

namespace Settings

def unset : Settings := ⟨none, none, none, none⟩

/-- The name of the environment variable for the mode. -/
def modeVariableName : Text := "SPRIG_PATTERN_MODE".toList

/-- The mode of new registries: the override, or else the variable if its value is known,
or else regular expressions. -/
def mode (s : Settings) : PatternKind :=
  match s.modeOverride with
  | some mode => mode
  | none =>
    match s.modeVariable.map PatternKind.ofName with
    | some (.ok mode) => mode
    | _ => .regex

/-- What is reported when the mode is asked for: a variable with a value that is not known
is ignored. -/
def modeEvents (s : Settings) : List Event :=
  match s.modeOverride, s.modeVariable.map PatternKind.ofName with
  | none, some (.error name) =>
    [⟨.warn, "ignoring ".toList ++ modeVariableName ++ ": ".toList
      ++ PatternKind.unknownMessage name⟩]
  | _, _ => []

/-- The language of readers that are not told one: the override as it is, or else the
variable, trimmed, if that leaves anything, or else English. -/
def language (s : Settings) : Text :=
  match s.languageOverride with
  | some language => language
  | none =>
    match s.languageVariable.map Text.trim with
    | some (c :: rest) => c :: rest
    | _ => Vocabulary.english.language

end Settings

/-- The reader for a path in the language that the settings give. -/
def Reader.withSettings {κ : Type} (s : Settings) (companion : κ) (path : Text)
    (featureId : Nat) : Except ReadError (Reader κ) :=
  Reader.new companion path featureId s.language

end Playbook
