import Playbook.Text.Basic

/-!
# Playbook.Vocabulary

The words that give the lines of a feature file their meaning: the five kinds
of step keyword, the vocabulary of one language, and the recognisers that look
for its words at the start of a line. The built-in languages are English,
German and French.

Design points:

* A vocabulary assigns spellings to every kind of step through a function, so
  a kind without an entry cannot occur.
* `Vocabulary.stepKind?` takes the longest spelling that fits; where several
  kinds own a spelling of that length the last kind wins.
-/

namespace Playbook

/-! ### Step keywords -/

/-- The kind of a step, whatever the language it is written in. -/
inductive StepKind
  /-- Sets up what a scenario starts from. -/
  | givenStep
  /-- Performs the action under test. -/
  | whenStep
  /-- States the expected outcome. -/
  | thenStep
  /-- Continues the step before it. -/
  | andStep
  /-- Contrasts with the step before it. -/
  | butStep
  deriving DecidableEq, Repr

namespace StepKind

/-- Every kind, in canonical order. -/
def all : List StepKind := [givenStep, whenStep, thenStep, andStep, butStep]

theorem mem_all (kind : StepKind) : kind ∈ all := by cases kind <;> decide

def name : StepKind → Text
  | givenStep => "Given".toList
  | whenStep => "When".toList
  | thenStep => "Then".toList
  | andStep => "And".toList
  | butStep => "But".toList

end StepKind

/-! ### Vocabularies -/

/-- The words of one language. -/
structure Vocabulary where
  /-- The code the vocabulary is asked for by. -/
  language : Text
  feature : Text
  scenario : Text
  /-- Introduces an outline, a scenario with placeholders. -/
  outline : Text
  /-- Introduces a loop, a scenario that is repeated. -/
  loop : Text
  examples : Text
  /-- The spellings of every step keyword. -/
  spellings : StepKind → List Text

namespace Vocabulary

/-! ### Recognisers -/

/-- The text after `keyword` and a colon, trimmed, if the line begins with the two.
White space may stand between the keyword and the colon. -/
def header? (line keyword : Text) : Option Text :=
  match (keyword.isPrefixOf? line).map Text.trimStart with
  | some (':' :: rest) => some (Text.trim rest)
  | _ => none

/-- Whether the line begins with `word`, followed by white space or nothing. -/
def hasWord (line word : Text) : Bool :=
  match word.isPrefixOf? line with
  | some rest => Text.endsWord rest
  | none => false

/-- Whether the line begins with `keyword` as a whole word: white space, a colon
or nothing follows. -/
def hasKeyword (line keyword : Text) : Bool :=
  match keyword.isPrefixOf? line with
  | some (':' :: _) => true
  | some rest => Text.endsWord rest
  | none => false

/-- Every spelling of every kind, in the order of the kinds. -/
def words (v : Vocabulary) : List (StepKind × Text) :=
  StepKind.all.flatMap fun kind => (v.spellings kind).map fun word => (kind, word)

/-- The best entry so far, if there is one, or the next entry if its word is not shorter. -/
def longer (best : Option (StepKind × Text)) (entry : StepKind × Text) :
    Option (StepKind × Text) :=
  match best with
  | some top => if top.2.length ≤ entry.2.length then some entry else some top
  | none => some entry

/-- The entry with the longest word; of several, the last. -/
def longest (entries : List (StepKind × Text)) : Option (StepKind × Text) :=
  entries.foldl longer none

/-- The kind of step a line begins with: that of the longest spelling that stands
at its start as a whole word. -/
def stepKind? (v : Vocabulary) (line : Text) : Option StepKind :=
  (longest (v.words.filter fun entry => hasWord line entry.2)).map (·.1)

/-- The sentence and the count of a loop header: the loop keyword, white space,
a count in digits, a colon and the sentence. -/
def loopHeader? (v : Vocabulary) (line : Text) : Option (Text × Nat) :=
  match v.loop.isPrefixOf? (Text.trim line) with
  | some (c :: rest) =>
    if Text.isBlank c then
      match rest.dropWhile (· ≠ ':') with
      | _ :: sentence =>
        (Text.count? (Text.trim (rest.takeWhile (· ≠ ':')))).map fun count =>
          (Text.trim sentence, count)
      | [] => none
    else none
  | _ => none

/-! ### Built-in languages -/

def english : Vocabulary where
  language := "en".toList
  feature := "Feature".toList
  scenario := "Scenario".toList
  outline := "Scenario Outline".toList
  loop := "Scenario Loop".toList
  examples := "Examples".toList
  spellings
    | .givenStep => ["Given".toList]
    | .whenStep => ["When".toList]
    | .thenStep => ["Then".toList]
    | .andStep => ["And".toList]
    | .butStep => ["But".toList]

def german : Vocabulary where
  language := "de".toList
  feature := "Funktionalität".toList
  scenario := "Szenario".toList
  outline := "Szenario Auslagerung".toList
  loop := "Szenario Schleife".toList
  examples := "Beispiele".toList
  spellings
    | .givenStep => ["Angenommen".toList, "Gegeben sei".toList, "Gegeben seien".toList]
    | .whenStep => ["Wenn".toList]
    | .thenStep => ["Dann".toList]
    | .andStep => ["Und".toList]
    | .butStep => ["Aber".toList]

def french : Vocabulary where
  language := "fr".toList
  feature := "Fonctionnalité".toList
  scenario := "Scénario".toList
  outline := "Plan du scénario".toList
  loop := "Scénario Boucle".toList
  examples := "Exemples".toList
  spellings
    | .givenStep =>
      ["Soit".toList, "Étant donné".toList, "Étant donné que".toList, "Etant donné que".toList]
    | .whenStep => ["Quand".toList, "Lorsque".toList]
    | .thenStep => ["Alors".toList]
    | .andStep => ["Et".toList]
    | .butStep => ["Mais".toList]

/-- The built-in vocabularies, in order. -/
def builtin : List Vocabulary := [english, german, french]

/-- A source of vocabularies: what a language code stands for. -/
abbrev Source := Text → Option Vocabulary

/-- The built-in vocabularies by language code; the case of ASCII letters in the
code is ignored. -/
def find? : Source := fun code =>
  builtin.find? fun v => Text.sameIgnoringCase v.language code

/-- The source that knows one vocabulary, under exactly its own code. -/
def only (v : Vocabulary) : Source := fun code => if code = v.language then some v else none

end Vocabulary

end Playbook
