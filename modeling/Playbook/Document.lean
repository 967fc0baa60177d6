import Playbook.Document.Passage

/-!
# Playbook.Document

Reading a feature file: the text is cut into lines, every line is read on its own, and
the lines are taken by a draft one after the other. The result is a feature or the
first error.

Design points:

* `Draft.takeAll` is a plain fold, so what a file means is a function of the list of
  its `Line`s.
* `Reader.read` says what a file means, however large that is. `Reader.reading` is how a
  program with bounded room comes to it, with what is reported on the way.
-/

namespace Playbook

open Document

/-! ### Errors -/

/-- Why the content of a file could not be had. Only that there is no file is told apart
from other reasons. -/
inductive FileError
  | notFound
  /-- A reason that is passed on: the name of its kind and its wording. -/
  | other (kind message : Text)
  deriving DecidableEq, Repr

/-- Why a feature could not be read. -/
inductive ReadError
  | unknownLanguage (language : Text)
  | missingFile (path : Text)
  /-- The file exists and its content could not be had. -/
  | unreadable (path : Text) (cause : FileError)
  /-- The identifiers of features have run out. -/
  | noIdLeft (path : Text) (firstId offset : Nat)
  /-- The structure of the file is wrong. -/
  | malformed (path : Text) (fault : Fault)
  deriving DecidableEq, Repr

def FileError.message : FileError → Text
  | notFound => "no such file".toList
  | other _ message => message

def ReadError.message : ReadError → Text
  | unknownLanguage language =>
    "Language ".toList ++ language ++ " could not be found".toList
  | missingFile path => "Feature file '".toList ++ path ++ "': No such file".toList
  | unreadable path cause =>
    "cannot read feature file '".toList ++ path ++ "': ".toList ++ cause.message
  | noIdLeft path firstId offset =>
    "no feature id left for '".toList ++ path ++ "' after ".toList ++ Text.decimal firstId
      ++ " + ".toList ++ Text.decimal offset
  | malformed path fault =>
    path ++ ':' :: Text.decimal fault.line ++ ": ".toList ++ fault.defect.message

/-! ### Taking all lines -/

namespace Document

namespace Draft

/-- Takes lines one after the other, up to the first that is at fault. -/
def takeAll (path examplesWord : Text) (d : Draft) (lines : List Line) : Except Fault Draft :=
  lines.foldlM (place path examplesWord) d

end Draft

/-- The feature that a list of lines describes. -/
def ofLines (path examplesWord : Text) (id : Nat) (lines : List Line) : Except Fault Feature :=
  match Draft.start.takeAll path examplesWord lines with
  | .ok d => d.toFeature path id
  | .error e => .error e

end Document

/-! ### Readers -/

/-- What reading something comes to. -/
structure Reading (α : Type) where
  ending : Ending ReadError α
  /-- What is reported on the way. -/
  events : List Event
  deriving DecidableEq, Repr

/-- What is needed to read one feature file. `κ` is the type of a companion that the
caller wants back beside the feature; reading does not look at it. -/
structure Reader (κ : Type) where
  companion : κ
  path : Text
  featureId : Nat
  vocabulary : Vocabulary

namespace Reader

variable {κ : Type}

/-- The reader for a path with the vocabulary that `source` has for the language. -/
def withSource (source : Vocabulary.Source) (companion : κ) (path : Text) (featureId : Nat)
    (language : Text) : Except ReadError (Reader κ) :=
  match source language with
  | some v => .ok ⟨companion, path, featureId, v⟩
  | none => .error (.unknownLanguage language)

/-- The reader for a path with a built-in vocabulary. -/
def new (companion : κ) (path : Text) (featureId : Nat) (language : Text) :
    Except ReadError (Reader κ) :=
  withSource Vocabulary.find? companion path featureId language

/-- The lines of a text, each read on its own. One leading byte order mark is not part
of the first line. -/
def lines (r : Reader κ) (text : Text) : List Line :=
  (Text.lines (Text.withoutMark text)).map (Line.read r.vocabulary)

/-- The feature a text describes. -/
def read (r : Reader κ) (text : Text) : Except ReadError Feature :=
  match Document.ofLines r.path r.vocabulary.examples r.featureId (r.lines text) with
  | .ok f => .ok f
  | .error e => .error (.malformed r.path e)

/-! ### Events -/

def startEvent (r : Reader κ) : Event := ⟨.debug, "parsing feature file ".toList ++ r.path⟩

def doneEvent (r : Reader κ) (f : Feature) : Event :=
  ⟨.debug, "parsed feature '".toList ++ f.sentence ++ "' from ".toList ++ r.path
    ++ " with ".toList ++ Text.decimal f.idCount ++ " scenario identifiers".toList⟩

/-! ### Readings -/

/-- The passage through the lines of a text. -/
def passage (room : Option Nat) (r : Reader κ) (text : Text) : Passage :=
  Draft.start.pass room r.path r.vocabulary.examples r.featureId #[] (r.lines text)

/-- The reading of a text in a program that can keep `room` scenarios. What is reported is the
start, the expansion of blocks, and the end if it was reached. -/
def reading (room : Option Nat) (r : Reader κ) (text : Text) : Reading Feature :=
  let passage := r.passage room text
  let last := match passage.ending with
    | .done f => [r.doneEvent f]
    | _ => []
  { ending := passage.ending.mapError (.malformed r.path)
    events := r.startEvent :: passage.log.toList ++ last }

/-- What is reported while a text is read. -/
def events (r : Reader κ) (text : Text) : List Event := (r.reading none text).events

end Reader

end Playbook
