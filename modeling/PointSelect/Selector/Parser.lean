import PointSelect.Number.Decimal
import PointSelect.Selector.Basic
import PointSelect.MatchOptions

namespace PointSelect

/-- Why the text after a marker is no selector. -/
inductive SelectorFault where
  | nothingFollows (coordinate : Coordinate)
  | malformedNumber (token : String)
  | notFinite (value : Binary64)
  | notInteger (value : Binary64)
  | outOfRange (value : Binary64)
  deriving DecidableEq

namespace Selector

/-- The bin index that a number stands for. -/
def exactIndex (policy : IndexPolicy) (value : Binary64) : Except SelectorFault Int64 :=
  if !value.isFinite then .error (.notFinite value)
  else if policy = .reject && !value.isWhole then .error (.notInteger value)
  else match toInt64? value.truncate with
    | some n => .ok n
    | none => .error (.outOfRange value)

def readNumber (token : List Char) : Except SelectorFault Binary64 :=
  match Binary64.readChars? token with
  | some x => .ok x
  | none => .error (.malformedNumber (String.ofList token))

/-- A bound of a range; `missing` stands for an empty one. -/
def readBound (missing : Binary64) (token : List Char) : Except SelectorFault Binary64 :=
  if token.isEmpty then .ok missing else readNumber token

/-- The bounds around the first colon, if there is one. -/
def splitRange? (body : List Char) : Option (List Char × List Char) :=
  match body.dropWhile (· != ':') with
  | [] => none
  | _ :: hi => some (body.takeWhile (· != ':'), hi)

def parseChars (coordinate : Coordinate) (policy : IndexPolicy) (body : List Char) :
    Except SelectorFault Selector :=
  if body.isEmpty then .error (.nothingFollows coordinate)
  else match splitRange? body with
    | none => do
      let value ← readNumber body
      match coordinate with
      | .index => return .index (.exact (← exactIndex policy value))
      | .position => return .position (.exact value)
    | some (lo, hi) => do
      let range := Interval.mk (← readBound .negInfinity lo) (← readBound .infinity hi)
      match coordinate with
      | .index => return .index (.range range)
      | .position => return .position (.range range)

/-- Reads the text after a marker: one number, or two bounds around a colon either of which may be
missing. -/
def parse (coordinate : Coordinate) (policy : IndexPolicy) (body : String) :
    Except SelectorFault Selector := parseChars coordinate policy body.toList

end Selector

end PointSelect
