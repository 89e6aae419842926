import PointSelect.Command.Token
import PointSelect.Event

namespace PointSelect.Command

/-- Where the patterns of a run come from. -/
inductive PatternSource where
  | file (path : String)
  | given (patterns : List String)
  deriving DecidableEq

/-- What a run does with its patterns. -/
inductive Task where
  /-- Print the points of a table that the patterns accept, or write them to a file. -/
  | select (points : String) (search : Bool) (output : Option String)
  /-- Print the patterns as they were understood. -/
  | check
  deriving DecidableEq

/-- A run of the program. -/
structure Invocation where
  logLevel : EventLevel := .warn
  config : Option String := none
  source : PatternSource
  task : Task
  deriving DecidableEq

/-- What a command line asks for. -/
inductive Request where
  | version
  | run (invocation : Invocation)
  deriving DecidableEq

/-- The options read so far. -/
structure Options where
  logLevel : Option EventLevel := none
  config : Option String := none
  points : Option String := none
  selection : Option String := none
  patterns : List String := []
  search : Option Unit := none
  output : Option String := none

/-- The value of an option that may be given once. -/
def setOnce {α : Type} (old : Option α) (new : Option α) : Option (Option α) :=
  if old.isSome ∨ new.isNone then none else some new

/-- A path has at least one character. -/
def path? (value : String) : Option String := if value.isEmpty then none else some value

namespace Options

/-- Adds an option. Only patterns may be given more than once. -/
def add? (o : Options) : Flag → String → Option Options
  | .version, _ => none
  | .logLevel, v =>
    (setOnce o.logLevel (EventLevel.ofText? v)).map fun x => { o with logLevel := x }
  | .config, v => (setOnce o.config (path? v)).map fun x => { o with config := x }
  | .points, v => (setOnce o.points (path? v)).map fun x => { o with points := x }
  | .selection, v => (setOnce o.selection (path? v)).map fun x => { o with selection := x }
  | .pattern, v => some { o with patterns := o.patterns ++ [v] }
  | .search, _ => (setOnce o.search (some ())).map fun x => { o with search := x }
  | .output, v => (setOnce o.output (path? v)).map fun x => { o with output := x }

/-- Adds all options of a command, of which it knows some. -/
def addAll? (known : List Flag) (o : Options) : List Token → Option Options
  | [] | [.endOfOptions] => some o
  | .option flag v :: rest =>
    if flag ∈ known then o.add? flag v >>= fun o => addAll? known o rest else none
  | _ => none

/-- Patterns come from a file or are given, and never both. -/
def source? (o : Options) : Option PatternSource :=
  match o.selection, o.patterns with
  | some path, [] => some (.file path)
  | none, p :: ps => some (.given (p :: ps))
  | _, _ => none

/-- The run that options ask for; those before the name of the command give way to those after. -/
def invocation? (before after : Options) (task : Task) : Option Invocation :=
  after.source?.map fun source =>
    ⟨(after.logLevel.or before.logLevel).getD .warn, after.config.or before.config, source, task⟩

end Options

/-- The options that may stand on either side of the name of the command. -/
def generalFlags : List Flag := [.logLevel, .config]

def checkFlags : List Flag := generalFlags ++ [.selection, .pattern]

def selectFlags : List Flag := checkFlags ++ [.points, .search, .output]

/-- The run of a named command. -/
def commandOf? (before : Options) (name : String) (rest : List Token) : Option Invocation :=
  if name = "select" then do
    let o ← Options.addAll? selectFlags {} rest
    before.invocation? o (.select (← o.points) o.search.isSome o.output)
  else if name = "check" then do
    let o ← Options.addAll? checkFlags {} rest
    before.invocation? o .check
  else none

/-- Reads options up to the name of the command; a question for the version ends the command
line. -/
def requestFrom? (before : Options) : List Token → Option Request
  | .option .version _ :: _ => some .version
  | .option flag v :: rest =>
    if flag ∈ generalFlags then before.add? flag v >>= fun o => requestFrom? o rest else none
  | .word name :: rest => (commandOf? before name rest).map .run
  | _ => none

namespace Request

/-- Reads the arguments of a command line. -/
def parse? (arguments : List String) : Option Request :=
  requestFrom? {} (Token.ofArguments arguments)

end Request

end PointSelect.Command
