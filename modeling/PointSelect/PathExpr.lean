import PointSelect.Regex.Footprint
import PointSelect.Regex.Parser
import PointSelect.Regex.Places

namespace PointSelect

namespace Regex

/-- Reads a regular expression whose machines stay within the limit. -/
def compile (text : String) : Except Fault Expr := do
  let e ← Parser.read text.toList
  if Footprint.isWithinLimit e then return e else .error .tooLarge

end Regex

/-- A compiled expression over dataset paths, together with its text. -/
structure PathExpr where
  text : String
  expr : Regex.Expr
  compiles : Regex.compile text = .ok expr

namespace PathExpr

def compile (text : String) : Except Regex.Fault PathExpr :=
  match h : Regex.compile text with
  | .ok expr => .ok ⟨text, expr, h⟩
  | .error fault => .error fault

/-- Whether the expression matches at the start of a path. -/
def matchesAtStart (e : PathExpr) (path : String) : Bool := e.expr.matchesAtStart path

/-- Whether the expression matches anywhere in a path. -/
def matchesAnywhere (e : PathExpr) (path : String) : Bool := e.expr.matchesAnywhere path

end PathExpr

end PointSelect
