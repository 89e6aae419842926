import PointSelect.Command.Request
import PointSelect.Config.File
import PointSelect.PointRecord.File
import PointSelect.SelectionList.File

namespace PointSelect.Command

/-- Why a run fails. -/
inductive Failure where
  | config (error : ConfigError)
  | pattern (error : PatternError)
  | selection (error : SelectionError)
  | table (error : TableError)
  | output (error : FileError)
  deriving DecidableEq

namespace Failure

/-- The failure as reports show it. -/
def describe : Failure → String
  | config e => e.describe
  | pattern e => e.describe
  | selection e => e.describe
  | table e => e.describe
  | output e => e.describe

end Failure

namespace PatternSource

/-- The list of the patterns. Of several faults the first one counts. -/
def build (d : Directory) (config : SelectionConfig) :
    PatternSource → Except Failure SelectionList
  | file path => (SelectionList.load d config path).mapError .selection
  | given lines =>
    ((lines.mapM (Pattern.compile config.matching)).map .ofPatterns).mapError .pattern

/-- What happens while lines are read up to the first that is no pattern. -/
def givenEvents (options : MatchOptions) : List String → List Event
  | [] => []
  | line :: rest =>
    match Pattern.compile options line with
    | .ok _ => Pattern.compileEvents options line ++ givenEvents options rest
    | .error _ => []

/-- What happens while the patterns are read. -/
def events (d : Directory) (config : SelectionConfig) : PatternSource → List Event
  | file path => SelectionList.loadEvents d config path
  | given lines => givenEvents config.matching lines

end PatternSource

/-- The records that a list accepts, as JSON. -/
def selectText (list : SelectionList) (records : List PointRecord) : String :=
  (PointRecord.listToJson (list.select (·.point) records)).writePretty ++ "\n"

/-- A pattern as it was understood: its text, its path expression and its selector. -/
def checkLine (p : Pattern) : String :=
  p.write ++ "\tpath=" ++ p.pathText?.getD "" ++ "\tselector=" ++ p.selector.describe ++ "\n"

/-- The number of the patterns. -/
def summaryLine (list : SelectionList) : String := toString list.size ++ " pattern(s) OK\n"

/-- What a run works on: the files, and what it has printed. -/
structure World where
  directory : Directory
  stdout : String := ""

/-- A part of a run. If it fails, what it has done before stays done. -/
abbrev Action := EStateM Failure World

namespace Action

/-- Finds something out from the files. -/
def read {α : Type} (answer : Directory → Except Failure α) : Action α := do
  match answer (← get).directory with
  | .ok a => return a
  | .error failure => throw failure

def print (text : String) : Action Unit := modify fun w => { w with stdout := w.stdout ++ text }

/-- Creates the output file, or empties it. -/
def create (path : String) : Action Unit := do
  let d ← read fun d => (d.create path).mapError .output
  modify fun w => { w with directory := d }

/-- Writes text to a file that is open. -/
def write (path text : String) : Action Unit :=
  modify fun w =>
    { w with directory := w.directory.append (Place.ofPath path) (Text.Utf8.encodeString text) }

/-- Prints a line for each pattern, and one with their number. -/
def check (list : SelectionList) : Action Unit := do
  list.patterns.forM fun p => print (checkLine p)
  print (summaryLine list)

/-- Prints the records of a table that a list accepts, or writes them to a file. -/
def select (list : SelectionList) (points : String) (output : Option String) : Action Unit := do
  let records ← read fun d => (PointRecord.load d points).mapError .table
  let text := selectText list records
  match output with
  | none => print text
  | some path =>
    create path
    write path text

end Action

namespace Invocation

/-- The configuration of a run. The search option is stronger than the configuration. -/
def configOf (i : Invocation) (d : Directory) : Except Failure SelectionConfig := do
  let config ← match i.config with
    | none => .ok {}
    | some path => (SelectionConfig.load d path).mapError .config
  match i.task with
  | .select _ true _ =>
    return { config with matching := { config.matching with pathMode := .search } }
  | _ => return config

/-- All that a run does, in order. -/
def perform (i : Invocation) : Action Unit := do
  let config ← Action.read i.configOf
  let list ← Action.read fun d => i.source.build d config
  match i.task with
  | .check => Action.check list
  | .select points _ output => Action.select list points output

/-- What happens while the points of a table are selected. -/
def selectEvents (d : Directory) (list : SelectionList) (points : String) : List Event :=
  (if list.isEmpty then [.noPatterns] else []) ++
    match PointRecord.load d points with
    | .error _ => []
    | .ok records =>
      let count := (list.select (·.point) records).length
      [.loadedPoints records.length points, .filteredPoints count records.length,
        .selectedPoints count records.length]

/-- What happens in a run. -/
def events (i : Invocation) (d : Directory) : List Event :=
  match i.configOf d with
  | .error _ => []
  | .ok config =>
    i.source.events d config ++
      match i.source.build d config, i.task with
      | .ok list, .select points _ _ => selectEvents d list points
      | _, _ => []

end Invocation

/-- What a run leaves behind. -/
structure Outcome where
  failure : Option Failure
  stdout : String
  log : List String
  directory : Directory

namespace Invocation

/-- Runs the program in a directory. -/
def run (i : Invocation) (d : Directory) : Outcome :=
  let log := ((i.events d).filter (·.isShownAt i.logLevel)).map Event.write
  match i.perform.run ⟨d, ""⟩ with
  | .ok _ w => ⟨none, w.stdout, log, w.directory⟩
  | .error failure w => ⟨some failure, w.stdout, log, w.directory⟩

end Invocation

/-- The answer to a question for the version. -/
def versionText : String := "implore-pick 0.1.0\n"

/-- What a command line that is understood leaves behind. -/
def Request.answer (d : Directory) : Request → Outcome
  | .version => ⟨none, versionText, [], d⟩
  | .run i => i.run d

end PointSelect.Command
