import PointSelect.Config.Toml
import PointSelect.Directory
import PointSelect.Text.Detail
import PointSelect.Text.Quoted

namespace PointSelect

/-- Why there is no configuration in a file. -/
inductive ConfigError where
  | toml
  | json
  | file (error : FileError)
  | unsupportedFormat (name : String)
  deriving DecidableEq

namespace ConfigError

/-- The error as reports show it. -/
def describe : ConfigError → String
  | toml => "TomlParse(" ++ anyDetail ++ ")"
  | json => "Json(" ++ anyDetail ++ ")"
  | file e => "Io(" ++ e.describe ++ ")"
  | unsupportedFormat name => "UnsupportedFormat(" ++ Text.quote name ++ ")"

def message : ConfigError → String
  | toml => "TOML parse error: " ++ anyDetail
  | json => "JSON error: " ++ anyDetail
  | file e => "I/O error: " ++ e.message
  | unsupportedFormat name => "Unsupported config format: " ++ name

end ConfigError

namespace SelectionConfig

/-- Reads the configuration in a file, whose extension names the format. The file is read first. -/
def load (d : Directory) (path : String) : Except ConfigError SelectionConfig :=
  match d.readText path with
  | .error e => .error (.file e)
  | .ok text =>
    match (Place.ofPath path).format with
    | "toml" => (readToml? text).elim (.error .toml) .ok
    | "json" => (readJson? text).elim (.error .json) .ok
    | name => .error (.unsupportedFormat name)

end SelectionConfig

end PointSelect
