import PointSelect.Json.Number
import PointSelect.Json.Reader

namespace PointSelect.Json

namespace Value

def toBinary64? : Value → Option Binary64
  | number n => n.toBinary64?
  | _ => none

def toInt64? : Value → Option Int64
  | number n => n.toInt64?
  | _ => none

def toText? : Value → Option String
  | string s => text? s
  | _ => none

def toBool? : Value → Option Bool
  | bool b => some b
  | _ => none

/-- The alternative of a choice without contents: its name, or an object that gives it null. -/
def toName? : Value → Option String
  | string s => text? s
  | object [(k, null)] => text? k
  | _ => none

end Value

/-- The values of named fields in order; none where a field is missing. A record is an object, in
which other names mean nothing, or an array of the first fields. -/
def fields? (names : List String) : Value → Option (List (Option Value))
  | .array items =>
    if items.length ≤ names.length then
      some (items.map some ++ List.replicate (names.length - items.length) none)
    else none
  | .object members => do
    let members ← members.mapM fun (k, v) => (text? k).map fun k => (k, v)
    names.mapM fun name =>
      match members.filter (·.1 = name) with
      | [] => some none
      | [(_, v)] => some (some v)
      | _ => none
  | _ => none

end PointSelect.Json
