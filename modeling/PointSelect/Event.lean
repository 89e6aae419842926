import PointSelect.Pattern.Basic

namespace PointSelect

/-- How much an event matters. -/
inductive EventLevel where
  | error
  | warn
  | info
  | debug
  | trace
  deriving DecidableEq

namespace EventLevel

def rank : EventLevel → Nat
  | error => 1
  | warn => 2
  | info => 3
  | debug => 4
  | trace => 5

def name : EventLevel → String
  | error => "ERROR"
  | warn => "WARN"
  | info => "INFO"
  | debug => "DEBUG"
  | trace => "TRACE"

def all : List EventLevel := [error, warn, info, debug, trace]

/-- The level of a rank, or of a name in any letter case. -/
def ofText? (s : String) : Option EventLevel :=
  let digits := match s.toList with
    | '+' :: cs => cs
    | cs => cs
  let name := String.ofList (s.toList.map Char.toUpper)
  all.find? fun l => readNat? 10 digits = some l.rank || l.name = name

end EventLevel

/-- Something that happened on the way to a result. -/
inductive Event where
  | emptyPattern
  | ignoredText (pattern ignored : String)
  | compiledPattern (pattern path : String) (selector : Selector)
  | skippedLine (line : Nat) (error : PatternError)
  | parsedList (count : Nat)
  | filteredPoints (selected total : Nat)
  | loadedPoints (count : Nat) (file : String)
  | noPatterns
  | selectedPoints (selected total : Nat)
  deriving DecidableEq

namespace Event

def level : Event → EventLevel
  | emptyPattern => .trace
  | ignoredText .. | compiledPattern .. | parsedList _ | filteredPoints .. => .debug
  | loadedPoints .. | selectedPoints .. => .info
  | skippedLine .. | noPatterns => .warn

/-- The part of the program that an event comes from. -/
def origin : Event → String
  | emptyPattern | ignoredText .. | compiledPattern .. => "implore_pointmatch::matcher"
  | skippedLine .. | parsedList _ | filteredPoints .. => "implore_pointmatch::list"
  | loadedPoints .. => "implore_pick::points"
  | noPatterns | selectedPoints .. => "implore_pick"

def message : Event → String
  | emptyPattern => "empty pattern, using degenerate matcher"
  | ignoredText pattern ignored =>
    "ignoring text after selector pattern=" ++ pattern ++ " ignored=" ++ ignored
  | compiledPattern pattern path selector =>
    "compiled point pattern pattern=" ++ pattern ++ " path=" ++ path ++
      " selector=" ++ selector.write
  | skippedLine line error =>
    "Skipping selection line " ++ toString line ++ ": " ++ error.message
  | parsedList count => "Parsed " ++ toString count ++ " selection patterns"
  | filteredPoints selected total | selectedPoints selected total =>
    "Selected " ++ toString selected ++ " of " ++ toString total ++ " points"
  | loadedPoints count file => "Loaded " ++ toString count ++ " points from " ++ file
  | noPatterns => "No patterns given, nothing will be selected"

/-- The event as one record of the log. -/
def write (e : Event) : String := e.level.name ++ " " ++ e.origin ++ ": " ++ e.message

/-- Whether a log of that level shows the event. -/
def isShownAt (e : Event) (level : EventLevel) : Bool := e.level.rank ≤ level.rank

end Event

namespace Pattern

/-- What happens while a line is read. -/
def compileEvents (options : MatchOptions) (line : String) : List Event :=
  match compile options line with
  | .error _ => []
  | .ok ⟨none, _⟩ => [.emptyPattern]
  | .ok ⟨some rule, _⟩ =>
    let trailing := (split rule.text).trailing
    (if trailing.isEmpty then [] else [.ignoredText rule.text trailing]) ++
      [.compiledPattern rule.text rule.path.text rule.selector]

end Pattern

end PointSelect
