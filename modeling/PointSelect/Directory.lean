import PointSelect.Text.Utf8

namespace PointSelect

/-- Why a file cannot be read or written. -/
inductive FileError where
  | notFound
  | notDirectory
  | isDirectory
  | notText
  deriving DecidableEq

namespace FileError

/-- The number that the system has for an error of its own. -/
def code? : FileError → Option Nat
  | notFound => some 2
  | notDirectory => some 20
  | isDirectory => some 21
  | notText => none

def kind : FileError → String
  | notFound => "NotFound"
  | notDirectory => "NotADirectory"
  | isDirectory => "IsADirectory"
  | notText => "InvalidData"

def text : FileError → String
  | notFound => "No such file or directory"
  | notDirectory => "Not a directory"
  | isDirectory => "Is a directory"
  | notText => "stream did not contain valid UTF-8"

def message (e : FileError) : String :=
  match e.code? with
  | some n => e.text ++ " (os error " ++ toString n ++ ")"
  | none => e.text

/-- The error as reports show it. -/
def describe (e : FileError) : String :=
  match e.code? with
  | some n => "Os \x7b code: " ++ toString n ++ ", kind: " ++ e.kind ++ ", message: \"" ++ e.text ++
      "\" \x7d"
  | none => "Error \x7b kind: " ++ e.kind ++ ", message: \"" ++ e.text ++ "\" \x7d"

end FileError

/-- The way to a file: the directories it goes through, and the name. -/
abbrev Place := List String

namespace Place

/-- The parts of a path between its slashes. -/
def parts : List Char → List (List Char)
  | [] => [[]]
  | c :: cs =>
    if c = '/' then [] :: parts cs
    else match parts cs with
      | [] => [[c]]
      | p :: ps => (c :: p) :: ps

/-- The parts of a path that lead somewhere: an empty one or a lone dot does not. An empty first
part stands for the root. Paths are taken as resolved: two dots are a part like any other and do not
lead back, so a path that goes through them is the way to a place of its own. -/
def ofPath (path : String) : Place :=
  match (parts path.toList).map String.ofList with
  | first :: rest =>
    let steps := (first :: rest).filter fun s => s ≠ "" ∧ s ≠ "."
    if first = "" ∧ !rest.isEmpty then "" :: steps else steps
  | [] => []

/-- Whether a path says of its end that it is a directory. -/
def namesDirectory (path : String) : Bool :=
  match (parts path.toList).getLast? with
  | some last => last = [] ∨ last = ['.']
  | none => false

/-- The name at the end, if it is one. -/
def name? (place : Place) : Option String :=
  match place.getLast? with
  | some name => if name = "" ∨ name = ".." then none else some name
  | none => none

/-- What follows the last dot of the name, if something stands before that dot. -/
def extension? (place : Place) : Option String := do
  let name := (← place.name?).toList
  let after := name.reverse.takeWhile (· ≠ '.')
  if after.length + 1 < name.length then some (String.ofList after.reverse) else none

/-- The format of a file, which its extension names. -/
def format (place : Place) : String := place.extension?.getD "<none>"

end Place

/-- What a program finds: files with their contents, and the directories that are there even if no
file is in them. -/
structure Directory where
  files : List (Place × Text.Bytes)
  directories : List Place := []

namespace Directory

/-- The contents of the file at a place. -/
def get? (d : Directory) (place : Place) : Option Text.Bytes :=
  (d.files.find? (·.1 = place)).map (·.2)

/-- Whether a place is a directory: the one that all paths start from, one with a file in it, or one
of those that are there anyway. -/
def hasDirectory (d : Directory) (place : Place) : Bool :=
  place.isEmpty || d.directories.contains place ||
    d.files.any fun f => place.isPrefixOf f.1 && place ≠ f.1

/-- Why there is nothing at a place. -/
def absence (d : Directory) (place : Place) : FileError :=
  if d.files.any fun f => f.1.isPrefixOf place && f.1 ≠ place then .notDirectory else .notFound

/-- Opens a path for reading. A directory can be opened, and has no contents. -/
def open? (d : Directory) (path : String) : Except FileError (Option Text.Bytes) :=
  let place := Place.ofPath path
  match d.get? place with
  | some content => if Place.namesDirectory path then .error .notDirectory else .ok (some content)
  | none =>
    if path ≠ "" ∧ d.hasDirectory place then .ok none else .error (d.absence place)

/-- The text of the file at a path. -/
def readText (d : Directory) (path : String) : Except FileError String :=
  match d.open? path with
  | .error e => .error e
  | .ok none => .error .isDirectory
  | .ok (some content) => match Text.Utf8.decodeString? content with
    | some text => .ok text
    | none => .error .notText

/-- Gives a file its contents, whether or not it was there. -/
def put (d : Directory) (place : Place) (content : Text.Bytes) : Directory :=
  if (d.get? place).isSome then
    { d with files := d.files.map fun f => if f.1 = place then (place, content) else f }
  else { d with files := d.files ++ [(place, content)] }

/-- Creates the file at a path, or empties the one that is there. The directory that it is in has to
be there. -/
def create (d : Directory) (path : String) : Except FileError Directory :=
  let place := Place.ofPath path
  if (d.get? place).isSome then
    if Place.namesDirectory path then .error .notDirectory else .ok (d.put place [])
  else if path = "" then .error .notFound
  else if d.hasDirectory place then .error .isDirectory
  else if !d.hasDirectory place.dropLast then .error (d.absence place)
  else if Place.namesDirectory path then .error .isDirectory
  else .ok (d.put place [])

/-- Writes at the end of the file at a place. -/
def append (d : Directory) (place : Place) (content : Text.Bytes) : Directory :=
  d.put place ((d.get? place).getD [] ++ content)

end Directory

end PointSelect
