import PointSelect.SelectionList

namespace PointSelect

/-- A pattern at work, patterns put aside, and the list in use. -/
structure Session where
  pattern : Pattern := {}
  bag : List Pattern := []
  list : SelectionList := .empty

namespace Session

/-- What can be done to a session. -/
inductive Action where
  /-- Reads the pattern at work from a line. -/
  | compile (options : MatchOptions) (line : String)
  /-- Reads it from another line with the options that it has. -/
  | recompile (line : String)
  | reset
  /-- Puts a copy of the pattern at work aside. -/
  | push
  /-- Makes the list from what was put aside. -/
  | listBag
  | parseList (config : SelectionConfig) (text : String)

/-- Why an action came to nothing. -/
inductive Fault where
  | pattern (error : PatternError)
  | line (error : LineError)
  deriving DecidableEq

def replacePattern (s : Session) : Except PatternError Pattern → Session × Option Fault
  | .ok p => ({ s with pattern := p }, none)
  | .error e => (s, some (.pattern e))

def replaceList (s : Session) : Except LineError SelectionList → Session × Option Fault
  | .ok list => ({ s with list }, none)
  | .error e => (s, some (.line e))

/-- The session after an action, and the fault if there was one. -/
def step (s : Session) : Action → Session × Option Fault
  | .compile options line => s.replacePattern (Pattern.compile options line)
  | .recompile line => s.replacePattern (s.pattern.recompile line)
  | .reset => ({ s with pattern := {} }, none)
  | .push => ({ s with bag := s.bag ++ [s.pattern] }, none)
  | .listBag => ({ s with list := .ofPatterns s.bag }, none)
  | .parseList config text => s.replaceList (SelectionList.parse config text)

/-- The session after one action after the other, whether they come to something or not. -/
def run (s : Session) (actions : List Action) : Session := actions.foldl (fun s a => (s.step a).1) s

end Session

end PointSelect
