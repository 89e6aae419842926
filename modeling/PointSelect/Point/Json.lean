import PointSelect.Json.Fields
import PointSelect.Json.Writer
import PointSelect.Point

namespace PointSelect.Point

open Json (Document Value)

/-- The members that a point is written with. -/
def jsonMembers (p : Point) : List (String × Document) :=
  [("path", .text p.path), ("n", .atom (writeInt p.index.toInt)), ("xmin", .number p.lower),
    ("xmax", .number p.upper)]

def toJson (p : Point) : Document := .object p.jsonMembers

/-- A point from the values of its four fields. -/
def ofFields? (path index lower upper : Value) : Option Point := do
  return ⟨← path.toText?, ← index.toInt64?, ← lower.toBinary64?, ← upper.toBinary64?⟩

def ofJson? (v : Value) : Option Point :=
  match Json.fields? ["path", "n", "xmin", "xmax"] v with
  | some [some path, some index, some lower, some upper] => ofFields? path index lower upper
  | _ => none

def writeJson (p : Point) : String := p.toJson.writeCompact

def readJson? (text : String) : Option Point := Json.readText? text >>= ofJson?

end PointSelect.Point
