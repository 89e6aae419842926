import PointSelect.Directory
import PointSelect.SelectionList
import PointSelect.Text.Quoted

namespace PointSelect

namespace SelectorFault

/-- The fault as reports show it, with the text of the pattern. -/
def describe (pattern : String) : SelectorFault → String
  | malformedNumber token =>
    "MalformedNumber \x7b pattern: " ++ Text.quote pattern ++ ", token: " ++ Text.quote token ++
      " \x7d"
  | fault =>
    "MalformedSelector \x7b pattern: " ++ Text.quote pattern ++ ", message: " ++
      Text.quote fault.detail ++ " \x7d"

end SelectorFault

namespace PatternError

/-- The error as reports show it. -/
def describe (e : PatternError) : String :=
  match e.fault with
  | .path _ =>
    "MalformedPath \x7b pattern: " ++ Text.quote e.pattern ++ ", message: " ++ anyDetail ++ " \x7d"
  | .selector fault => fault.describe e.pattern

end PatternError

/-- Why a file is no selection list. -/
inductive SelectionError where
  | line (error : LineError)
  | file (path : String) (error : FileError)
  deriving DecidableEq

namespace SelectionError

/-- The error as reports show it. -/
def describe : SelectionError → String
  | line e =>
    "Pattern \x7b line: " ++ toString e.line ++ ", source: " ++ e.error.describe ++ " \x7d"
  | file path e => "Io \x7b path: " ++ Text.quote path ++ ", source: " ++ e.describe ++ " \x7d"

end SelectionError

namespace SelectionList

/-- Reads the list in a file. -/
def load (d : Directory) (config : SelectionConfig) (path : String) :
    Except SelectionError SelectionList :=
  match d.readText path with
  | .error e => .error (.file path e)
  | .ok text => (parse config text).mapError .line

/-- What happens while a file is read. -/
def loadEvents (d : Directory) (config : SelectionConfig) (path : String) : List Event :=
  match d.readText path with
  | .error _ => []
  | .ok text => parseEvents config text

end SelectionList

end PointSelect
