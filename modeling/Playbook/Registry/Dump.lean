import Playbook.Json
import Playbook.Registry

/-!
# Playbook.Registry.Dump

The contents of a registry as JSON: the mode, and for every entry its text, the name of
its action and where that is declared, in the order of registration.
-/

namespace Playbook

def RegistryEntry.toJson {E : Engine} {σ : Type} (entry : RegistryEntry E σ) : Json :=
  .object [
    ("pattern".toList, .string entry.text),
    ("name".toList, .string entry.action.name),
    ("file".toList, .string entry.action.location.file),
    ("line".toList, .number entry.action.location.line)]

namespace Registry

variable {E : Engine} {σ : Type}

def toJson (r : Registry E σ) : Json :=
  .object [
    ("mode".toList, .string r.mode.name),
    ("steps".toList, .array (r.entries.map RegistryEntry.toJson))]

def jsonText (r : Registry E σ) : Text := r.toJson.compact

end Registry

end Playbook
