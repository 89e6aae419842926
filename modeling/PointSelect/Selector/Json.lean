import PointSelect.Json.Fields
import PointSelect.Json.Writer
import PointSelect.Selector.Basic

namespace PointSelect

open Json (Document Value)

namespace Interval

def toJson (r : Interval) : Document := .object [("lo", .number r.lo), ("hi", .number r.hi)]

def ofJson? (v : Value) : Option Interval :=
  match Json.fields? ["lo", "hi"] v with
  | some [some lo, some hi] => do return ⟨← lo.toBinary64?, ← hi.toBinary64?⟩
  | _ => none

end Interval

namespace Target

def toJson {α : Type} (value : α → Document) : Target α → Document
  | exact x => .object [("Exact", value x)]
  | range r => .object [("Range", r.toJson)]

def ofJson? {α : Type} (value? : Value → Option α) : Value → Option (Target α)
  | .object [(k, v)] =>
    match Json.text? k with
    | some "Exact" => (value? v).map exact
    | some "Range" => (Interval.ofJson? v).map range
    | _ => none
  | _ => none

end Target

namespace Selector

/-- A selector as an object that names its coordinate and then its kind of target. -/
def toJson : Selector → Document
  | unrestricted => .text "None"
  | index t => .object [("Index", t.toJson fun n => .atom (writeInt n.toInt))]
  | position t => .object [("Position", t.toJson .number)]

def ofJson? (v : Value) : Option Selector :=
  match v with
  | .object [(k, t)] =>
    match Json.text? k with
    | some "Index" => (Target.ofJson? Value.toInt64? t).map index
    | some "Position" => (Target.ofJson? Value.toBinary64? t).map position
    | _ => if v.toName? = some "None" then some unrestricted else none
  | _ => if v.toName? = some "None" then some unrestricted else none

def writeJson (s : Selector) : String := s.toJson.writeCompact

def readJson? (text : String) : Option Selector := Json.readText? text >>= ofJson?

end Selector

end PointSelect
