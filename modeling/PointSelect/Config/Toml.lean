import PointSelect.Config.Json
import PointSelect.Toml.Fields
import PointSelect.Toml.Reader

namespace PointSelect

open Toml (Item)

namespace MatchOptions

def ofToml? (item : Item) : Option MatchOptions :=
  match item.fields? ["index_policy", "path_mode"] with
  | some [policy, mode] => do
    return ⟨← optionalField (fun i => i.toName? >>= IndexPolicy.ofName?) .truncate policy,
      ← optionalField (fun i => i.toName? >>= PathMode.ofName?) .anchored mode⟩
  | _ => none

end MatchOptions

namespace SelectionConfig

def ofToml? (item : Item) : Option SelectionConfig :=
  match item.fields? ["matching", "skip_invalid"] with
  | some [matching, skipInvalid] => do
    return ⟨← optionalField MatchOptions.ofToml? {} matching,
      ← optionalField Item.toBool? false skipInvalid⟩
  | _ => none

def writeToml (c : SelectionConfig) : String :=
  "skip_invalid = " ++ (if c.skipInvalid then "true" else "false") ++ "\n\n[matching]\n" ++
    "index_policy = \"" ++ c.matching.indexPolicy.name ++ "\"\n" ++
    "path_mode = \"" ++ c.matching.pathMode.name ++ "\"\n"

def readToml? (text : String) : Option SelectionConfig := do
  ofToml? (.table .header (← Toml.read? text))

end SelectionConfig

end PointSelect
