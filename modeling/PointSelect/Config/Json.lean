import PointSelect.Config.Basic
import PointSelect.Json.Fields
import PointSelect.Json.Writer

namespace PointSelect

open Json (Document Value)

namespace IndexPolicy

def name : IndexPolicy → String
  | truncate => "truncate"
  | reject => "reject"

def ofName? (s : String) : Option IndexPolicy :=
  if s = "truncate" then some truncate else if s = "reject" then some reject else none

end IndexPolicy

namespace PathMode

def name : PathMode → String
  | anchored => "anchored"
  | search => "search"

def ofName? (s : String) : Option PathMode :=
  if s = "anchored" then some anchored else if s = "search" then some search else none

end PathMode

/-- The value of a field that may be missing. -/
def optionalField {α β : Type} (read? : α → Option β) (missing : β) : Option α → Option β
  | none => some missing
  | some v => read? v

namespace MatchOptions

def toJson (o : MatchOptions) : Document :=
  .object [("index_policy", .text o.indexPolicy.name), ("path_mode", .text o.pathMode.name)]

def ofJson? (v : Value) : Option MatchOptions :=
  match Json.fields? ["index_policy", "path_mode"] v with
  | some [policy, mode] => do
    return ⟨← optionalField (fun v => v.toName? >>= IndexPolicy.ofName?) .truncate policy,
      ← optionalField (fun v => v.toName? >>= PathMode.ofName?) .anchored mode⟩
  | _ => none

end MatchOptions

namespace SelectionConfig

def toJson (c : SelectionConfig) : Document :=
  .object [("matching", c.matching.toJson), ("skip_invalid", .bool c.skipInvalid)]

def ofJson? (v : Value) : Option SelectionConfig :=
  match Json.fields? ["matching", "skip_invalid"] v with
  | some [matching, skipInvalid] => do
    return ⟨← optionalField MatchOptions.ofJson? {} matching,
      ← optionalField Value.toBool? false skipInvalid⟩
  | _ => none

def writeJson (c : SelectionConfig) : String := c.toJson.writePretty

def readJson? (text : String) : Option SelectionConfig := Json.readText? text >>= ofJson?

end SelectionConfig

end PointSelect
