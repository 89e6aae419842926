import PointSelect.Regex.Fault
import PointSelect.Selector.Parser
import PointSelect.Text.Detail

namespace PointSelect

/-- Why a text is no pattern. -/
inductive PatternFault where
  | path (fault : Regex.Fault)
  | selector (fault : SelectorFault)
  deriving DecidableEq

/-- A text that is no pattern, without its comment, and the reason. -/
structure PatternError where
  pattern : String
  fault : PatternFault
  deriving DecidableEq

namespace SelectorFault

/-- What is wrong with the selector, if it is not one of its numbers. -/
def detail : SelectorFault → String
  | nothingFollows k => "nothing follows '" ++ k.marker.toString ++ "'"
  | malformedNumber token => token
  | notFinite v => "bin index " ++ v.write .plain ++ " is not finite"
  | notInteger v => "bin index " ++ v.write .plain ++ " is not an integer"
  | outOfRange v => "bin index " ++ v.write .plain ++ " is out of range"

end SelectorFault

namespace PatternError

def message (e : PatternError) : String :=
  match e.fault with
  | .path _ => "Malformed path expression in '" ++ e.pattern ++ "': " ++ anyDetail
  | .selector (.malformedNumber token) =>
    "Malformed number '" ++ token ++ "' in '" ++ e.pattern ++ "'"
  | .selector fault => "Malformed selector in '" ++ e.pattern ++ "': " ++ fault.detail

end PatternError

end PointSelect
