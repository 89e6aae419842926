import PointSelect.Csv
import PointSelect.Number.Decimal
import PointSelect.Number.Integer
import PointSelect.PointRecord

namespace PointSelect.PointRecord

/-- The index in a field: hexadecimal after `0x`, else decimal. -/
def readIndex? (field : String) : Option Int64 :=
  (match field.toList with
    | '0' :: 'x' :: cs => readInt? 16 cs
    | cs => readInt? 10 cs) >>= toInt64?

/-- The value in a field; an empty field has none. -/
def readValue? (field : String) : Option (Option Binary64) :=
  if field.isEmpty then some none else (Binary64.read? field).map some

/-- The record of a row under the names of the columns. -/
def ofRow? (columns : Option (List String)) (row : List String) : Option PointRecord :=
  match Csv.fields? ["path", "n", "xmin", "xmax", "value"] columns row with
  | some [some path, some index, some lower, some upper, value] => do
    return ⟨⟨path, ← readIndex? index, ← Binary64.read? lower, ← Binary64.read? upper⟩,
      ← (value.elim (some none) readValue?)⟩
  | _ => none

/-- Reads the records of a CSV text from its octets. -/
def readCsv? (cs : List Char) : Option (List PointRecord) := do
  let table ← Csv.read? cs
  table.rows.mapM (ofRow? table.names)

end PointSelect.PointRecord
