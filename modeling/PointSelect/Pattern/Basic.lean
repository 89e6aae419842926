import PointSelect.PathExpr
import PointSelect.Pattern.Comment
import PointSelect.Pattern.Error
import PointSelect.Pattern.Parts

namespace PointSelect

/-- What a pattern asks of a point. -/
structure Rule where
  /-- The line of the pattern without its comment. -/
  text : String
  path : PathExpr
  selector : Selector

/-- A compiled pattern. A degenerate one has no rule and accepts everything. -/
structure Pattern where
  rule : Option Rule := none
  options : MatchOptions := {}

namespace Pattern

def isDegenerate (p : Pattern) : Bool := p.rule.isNone

/-- The normalised text; a degenerate pattern has none. -/
def text? (p : Pattern) : Option String := p.rule.map (·.text)

def pathText? (p : Pattern) : Option String := p.rule.map (·.path.text)

def selector (p : Pattern) : Selector := p.rule.elim .unrestricted (·.selector)

/-- The pattern as a line of a list. -/
def write (p : Pattern) : String := p.text?.getD ""

/-- The selector of a text taken apart. -/
def readSelector (options : MatchOptions) (parts : PatternParts) :
    Except SelectorFault Selector :=
  match parts.selector with
  | none => .ok .unrestricted
  | some (k, body) => Selector.parse k options.indexPolicy body

/-- Reads a line. The path expression is judged before the selector. -/
def compile (options : MatchOptions) (line : String) : Except PatternError Pattern :=
  let text := stripComment line
  if text.isEmpty then .ok ⟨none, options⟩
  else
    let parts := split text
    match PathExpr.compile parts.path with
    | .error fault => .error ⟨text, .path fault⟩
    | .ok path => match readSelector options parts with
      | .error fault => .error ⟨text, .selector fault⟩
      | .ok selector => .ok ⟨some ⟨text, path, selector⟩, options⟩

/-- Reads another line with the same options. -/
def recompile (p : Pattern) (line : String) : Except PatternError Pattern :=
  compile p.options line

def matchesAtStart (p : Pattern) (path : String) : Bool :=
  p.rule.all (·.path.matchesAtStart path)

def matchesAnywhere (p : Pattern) (path : String) : Bool :=
  p.rule.all (·.path.matchesAnywhere path)

/-- Whether a path meets the pattern in the way its options ask for. -/
def matchesPath (p : Pattern) (path : String) : Bool :=
  match p.options.pathMode with
  | .anchored => p.matchesAtStart path
  | .search => p.matchesAnywhere path

/-- Whether a point meets the selector, whatever its path. -/
def acceptsPoint (p : Pattern) (point : Point) : Bool := p.selector.accepts point

/-- Whether a point meets the whole pattern. -/
def accepts (p : Pattern) (point : Point) : Bool :=
  p.matchesPath point.path && p.acceptsPoint point

/-- Equality of what two patterns ask; their texts may differ. -/
def equal (p q : Pattern) : Bool :=
  p.pathText? == q.pathText? && p.selector.equal q.selector && p.options == q.options

end Pattern

end PointSelect
