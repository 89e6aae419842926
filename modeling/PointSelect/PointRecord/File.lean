import PointSelect.Directory
import PointSelect.PointRecord.Csv
import PointSelect.PointRecord.Json
import PointSelect.Text.Detail
import PointSelect.Text.Quoted

namespace PointSelect

/-- Why there is no point table in a file. -/
inductive TableError where
  | json
  | csv
  | file (path : String) (error : FileError)
  | unsupportedFormat (name : String)
  deriving DecidableEq

namespace TableError

/-- The error as reports show it. -/
def describe : TableError → String
  | json => "Json(" ++ anyDetail ++ ")"
  | csv => "Csv(" ++ anyDetail ++ ")"
  | file path e =>
    "Open \x7b path: " ++ Text.quote path ++ ", message: " ++ Text.quote e.message ++ " \x7d"
  | unsupportedFormat name => "UnsupportedFormat(" ++ Text.quote name ++ ")"

def message : TableError → String
  | json => "Invalid JSON point table: " ++ anyDetail
  | csv => "Invalid CSV point table: " ++ anyDetail
  | file path e => "Failed to open " ++ path ++ ": " ++ e.message
  | unsupportedFormat name => "Unsupported point table format: " ++ name

end TableError

namespace PointRecord

/-- Reads the point table in a file, whose extension names the format. The file is opened first; a
directory that can be opened holds no table. -/
def load (d : Directory) (path : String) : Except TableError (List PointRecord) :=
  match d.open? path with
  | .error e => .error (.file path e)
  | .ok content =>
    match (Place.ofPath path).format with
    | "json" => (content.bind fun bytes => readJson? (Text.octets bytes)).elim (.error .json) .ok
    | "csv" => (content.bind fun bytes => readCsv? (Text.octets bytes)).elim (.error .csv) .ok
    | name => .error (.unsupportedFormat name)

end PointRecord

end PointSelect
