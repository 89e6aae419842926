import PointSelect.Point.Json
import PointSelect.PointRecord

namespace PointSelect.PointRecord

open Json (Document Value)

/-- The point's members, and the value if there is one. -/
def toJson (r : PointRecord) : Document :=
  .object (r.point.jsonMembers ++ r.value.toList.map fun x => ("value", .number x))

/-- A number, or null for none. -/
def optionalNumber? : Value → Option (Option Binary64)
  | .null => some none
  | v => v.toBinary64?.map some

def ofJson? (v : Value) : Option PointRecord :=
  match Json.fields? ["path", "n", "xmin", "xmax", "value"] v with
  | some [some path, some index, some lower, some upper, value] => do
    return ⟨← Point.ofFields? path index lower upper, ← (value.elim (some none) optionalNumber?)⟩
  | _ => none

/-- The records of a JSON array. -/
def listOfJson? : Value → Option (List PointRecord)
  | .array items => items.mapM ofJson?
  | _ => none

/-- Reads the records of a JSON text from its octets. -/
def readJson? (cs : List Char) : Option (List PointRecord) := Json.read? cs >>= listOfJson?

def listToJson (records : List PointRecord) : Document := .array (records.map toJson)

end PointSelect.PointRecord
