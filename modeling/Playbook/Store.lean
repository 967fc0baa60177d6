import Playbook.Document

/-!
# Playbook.Store

Feature files: where their text comes from, and reading several of them in one go.

Design points:

* Loading knows files only as a function from paths to texts or errors.
* A store is a tree of directories held in memory as the list of its nodes by path; a
  directory exists as soon as something lies in it.
-/

namespace Playbook

/-- Where texts come from: what a path leads to. -/
abbrev FileSource := Text → Except FileError Text

/-! ### Stores -/

/-- A node of a store. -/
inductive FileNode
  /-- A file with its bytes. -/
  | file (content : ByteArray)
  | directory

/-- A tree of directories and files. A path is the list of the names on the way. -/
structure Store where
  nodes : List (List Text × FileNode)

namespace Store

/-- The names that a path with slashes goes through. -/
def components (path : Text) : List Text := path.splitOn '/'

/-- The path without names that do not lead anywhere else. -/
def plain (path : Text) : List Text :=
  (components path).filter fun name => name ≠ [] ∧ name ≠ ['.']

/-- The store with a node put at a path. -/
def put (s : Store) (path : Text) (node : FileNode) : Store := ⟨(plain path, node) :: s.nodes⟩

/-- The node at a path of names. The root is a directory. -/
def node? (s : Store) (names : List Text) : Option FileNode :=
  if names = [] then some .directory
  else
    match s.nodes.lookup names with
    | some node => some node
    | none => if s.nodes.any fun (key, _) => names.isPrefixOf key then some .directory else none

/-! ### What cannot be read -/

def isDirectory : FileError := .other "IsADirectory".toList "is a directory".toList

def notDirectory : FileError := .other "NotADirectory".toList "not a directory".toList

def invalidData : FileError :=
  .other "InvalidData".toList "stream did not contain valid UTF-8".toList

/-! ### Reading -/

/-- Where names lead that leave the store: to a directory, as long as none of them names
anything. -/
def outside (names : List Text) : FileError :=
  if names.all fun name => name = [] ∨ name = ['.'] ∨ name = ['.', '.'] then isDirectory
  else .notFound

/-- Follows names from a directory. One dot and no name stay in a directory, two dots go
back; a file has nothing below it, and no name leads back into the store. -/
def follow (s : Store) (place : List Text) : List Text → Except FileError (List Text)
  | [] => .ok place
  | name :: rest =>
    match s.node? place with
    | none => .error .notFound
    | some (.file _) => .error notDirectory
    | some .directory =>
      if name = [] ∨ name = ['.'] then s.follow place rest
      else if name = ['.', '.'] then
        if place = [] then .error (outside rest) else s.follow place.dropLast rest
      else s.follow (place ++ [name]) rest

/-- The text of a file, if its bytes are valid UTF-8. -/
def decode (content : ByteArray) : Except FileError Text :=
  match String.fromUTF8? content with
  | some text => .ok text.toList
  | none => .error invalidData

/-- What a path leads to, from the root of the store. There is nothing at the empty path,
and a path that begins with a slash leads out of the store. -/
def read (s : Store) : FileSource := fun path =>
  if path = [] then .error .notFound
  else if path.head? = some '/' then .error (outside (components path))
  else
    match s.follow [] (components path) with
    | .error e => .error e
    | .ok names =>
      match s.node? names with
      | none => .error .notFound
      | some .directory => .error isDirectory
      | some (.file content) => decode content

end Store

/-! ### Loading -/

namespace Load

/-- The reader for the file at some position of a list, whose feature is numbered from
`firstId` on. -/
def readerAt (language : Text) (firstId offset : Nat) (path : Text) :
    Except ReadError (Reader Unit) :=
  if Text.maxCount < firstId + offset then .error (.noIdLeft path firstId offset)
  else Reader.new () path (firstId + offset) language

/-- The text at a path. -/
def text (files : FileSource) (path : Text) : Except ReadError Text :=
  match files path with
  | .ok text => .ok text
  | .error .notFound => .error (.missingFile path)
  | .error e => .error (.unreadable path e)

/-- The feature of the file at some position of a list. -/
def featureAt (files : FileSource) (language : Text) (firstId offset : Nat) (path : Text) :
    Except ReadError Feature :=
  match readerAt language firstId offset path with
  | .error e => .error e
  | .ok r =>
    match text files path with
    | .error e => .error e
    | .ok source => r.read source

/-- The features of the files from some position of a list on. -/
def featuresFrom (files : FileSource) (language : Text) (firstId offset : Nat) :
    List Text → Except ReadError (List Feature)
  | [] => .ok []
  | path :: rest =>
    match featureAt files language firstId offset path with
    | .error e => .error e
    | .ok f =>
      match featuresFrom files language firstId (offset + 1) rest with
      | .error e => .error e
      | .ok fs => .ok (f :: fs)

/-- The features of files, numbered from `firstId` on, or the error of the first file that
has one. -/
def features (files : FileSource) (paths : List Text) (firstId : Nat) (language : Text) :
    Except ReadError (List Feature) :=
  featuresFrom files language firstId 0 paths

/-! ### Readings -/

/-- The reading of the file at some position of a list, in a program that can keep `room`
scenarios of one file. -/
def readingAt (room : Option Nat) (files : FileSource) (language : Text) (firstId offset : Nat)
    (path : Text) : Reading Feature :=
  match readerAt language firstId offset path with
  | .error e => ⟨.refused e, []⟩
  | .ok r =>
    match text files path with
    | .error e => ⟨.refused e, []⟩
    | .ok source => r.reading room source

/-- The reading of the files from some position of a list on, up to the first that gives no
feature. -/
def readingFrom (room : Option Nat) (files : FileSource) (language : Text)
    (firstId offset : Nat) : List Text → Reading (List Feature)
  | [] => ⟨.done [], []⟩
  | path :: rest =>
    let first := readingAt room files language firstId offset path
    match first.ending with
    | .done f =>
      let others := readingFrom room files language firstId (offset + 1) rest
      ⟨others.ending.map (f :: ·), first.events ++ others.events⟩
    | .refused e => ⟨.refused e, first.events⟩
    | .stopped => ⟨.stopped, first.events⟩

/-- The reading of files, whose features are numbered from `firstId` on. -/
def reading (room : Option Nat) (files : FileSource) (paths : List Text) (firstId : Nat)
    (language : Text) : Reading (List Feature) :=
  readingFrom room files language firstId 0 paths

end Load

end Playbook
