import Playbook.Text.Basic

/-!
# Playbook.Engine

The engine that makes regular expressions and searches for them. It comes from outside: steps
are bound and resolved with whatever engine is given, so it is a parameter here, with what its
documentation says about groups beside it (`Engine.Lawful`).
-/

namespace Playbook

/-- An engine for regular expressions. -/
structure Engine where
  /-- A regular expression, ready to be searched for. -/
  Regex : Type
  /-- A match of an expression in a text. -/
  Found : Type
  /-- The expression of a text, or what is wrong with the text. -/
  new : Text → Except Text Regex
  /-- A text in which nothing has a meaning of its own any more. -/
  escape : Text → Text
  /-- The names of the groups of an expression; `none` for a group without a name. -/
  names : Regex → List (Option Text)
  /-- The leftmost match in a text. -/
  find? : Regex → Text → Option Found
  /-- What the groups have matched; `none` for a group that took no part. -/
  groups : Found → List (Option Text)
  /-- What the group with a name has matched. -/
  named? : Found → Text → Option Text

/-- What the documentation of an engine says about groups. -/
structure Engine.Lawful (E : Engine) : Prop where
  /-- The first group is the whole expression, which has no name. Those of the text come behind
  it, in the order of their opening parentheses. -/
  names_eq_cons : ∀ {text re}, E.new text = .ok re → ∃ groups, E.names re = none :: groups
  /-- A text that gives a name twice is no expression. -/
  nodup_names : ∀ {text re}, E.new text = .ok re → ((E.names re).filterMap id).Nodup
  /-- A match has an entry for every group of the expression, whether it took part or not. -/
  length_groups : ∀ {text re sentence found}, E.new text = .ok re →
    E.find? re sentence = some found → (E.groups found).length = (E.names re).length
  /-- Under a name is what the group with the name has matched, and nothing if there is no such
  group or it took no part. -/
  named?_eq_some_iff : ∀ {text re sentence found name value}, E.new text = .ok re →
    E.find? re sentence = some found → (E.named? found name = some value ↔
      ∃ i : Nat, (E.names re)[i]? = some (some name) ∧ (E.groups found)[i]? = some (some value))

end Playbook
