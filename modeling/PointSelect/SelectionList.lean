import PointSelect.Config.Basic
import PointSelect.Event
import PointSelect.Text.Lines

namespace PointSelect

/-- Patterns of which a point has to meet one. -/
structure SelectionList where
  patterns : List Pattern
  live : ∀ p ∈ patterns, p.isDegenerate = false

/-- A line of a list that is no pattern; lines count from 1. -/
structure LineError where
  line : Nat
  error : PatternError
  deriving DecidableEq

namespace LineError

def message (e : LineError) : String := "Line " ++ toString e.line ++ ": " ++ e.error.message

end LineError

namespace SelectionList

/-- The list without its degenerate patterns. -/
def ofPatterns (ps : List Pattern) : SelectionList :=
  ⟨ps.filter fun p => !p.isDegenerate, fun p hp => by simpa using (List.mem_filter.1 hp).2⟩

def empty : SelectionList := ofPatterns []

instance : Inhabited SelectionList := ⟨empty⟩

/-- Reads lines that are numbered from `first`. -/
def compileLines (config : SelectionConfig) (first : Nat) :
    List (List Char) → Except LineError (List Pattern)
  | [] => .ok []
  | line :: rest =>
    match Pattern.compile config.matching (String.ofList line) with
    | .ok p => do return p :: (← compileLines config (first + 1) rest)
    | .error e =>
      if config.skipInvalid then compileLines config (first + 1) rest else .error ⟨first, e⟩

/-- Reads one pattern from each line of a text. Lines without a pattern mean nothing. -/
def parse (config : SelectionConfig) (text : String) : Except LineError SelectionList :=
  (compileLines config 1 (Text.lines text.toList)).map ofPatterns

/-- What happens while lines are read that are numbered from `first`. -/
def lineEvents (config : SelectionConfig) (first : Nat) : List (List Char) → List Event
  | [] => []
  | line :: rest =>
    let line := String.ofList line
    match Pattern.compile config.matching line with
    | .ok _ => Pattern.compileEvents config.matching line ++ lineEvents config (first + 1) rest
    | .error e =>
      if config.skipInvalid then .skippedLine first e :: lineEvents config (first + 1) rest else []

/-- What happens while a text is read. -/
def parseEvents (config : SelectionConfig) (text : String) : List Event :=
  lineEvents config 1 (Text.lines text.toList) ++
    match parse config text with
    | .ok list => [.parsedList list.patterns.length]
    | .error _ => []

def size (list : SelectionList) : Nat := list.patterns.length

def isEmpty (list : SelectionList) : Bool := list.patterns.isEmpty

def matchesPath (list : SelectionList) (path : String) : Bool :=
  list.patterns.any (·.matchesPath path)

/-- Whether some pattern of the list accepts the point. -/
def accepts (list : SelectionList) (point : Point) : Bool :=
  list.patterns.any (·.accepts point)

/-- The points that the list accepts, in their order; `toPoint` tells what counts of them. -/
def select {α : Type} (list : SelectionList) (toPoint : α → Point) (points : List α) : List α :=
  points.filter fun p => list.accepts (toPoint p)

/-- The patterns, each on a line of its own. -/
def write (list : SelectionList) : String :=
  String.join (list.patterns.map fun p => p.write ++ "\n")

end SelectionList

end PointSelect
