import PointSelect.Unicode.Age
import PointSelect.Unicode.BinaryProperty
import PointSelect.Unicode.GeneralCategory
import PointSelect.Unicode.GraphemeBreak
import PointSelect.Unicode.Script
import PointSelect.Unicode.ScriptExtensions
import PointSelect.Unicode.SentenceBreak
import PointSelect.Unicode.WordBreak

namespace PointSelect.Unicode

/-- Drops what does not count in the name of a property: letter case, spaces, hyphens, underscores
and everything that is not ASCII. -/
def plainName (cs : List Char) : List Char :=
  (cs.filter fun c => c.toNat < 0x80 && c != ' ' && c != '_' && c != '-').map Char.toLower

/-- The name that a property is looked up by. A leading `is` does not count either, except in `isc`,
which is a name of its own. -/
def lookupName (name : String) : String :=
  let cs := name.toList
  match cs with
  | i :: s :: rest =>
    if i.toLower == 'i' && s.toLower == 's' then
      let plain := plainName rest
      if plain == ['c'] then "isc" else String.ofList plain
    else String.ofList (plainName cs)
  | _ => String.ofList (plainName cs)

/-- The groups of general categories under their names. -/
def categoryGroups : List (List String × List String) := [
  (["l", "letter"], ["lu", "ll", "lt", "lm", "lo"]),
  (["lc", "casedletter"], ["lu", "ll", "lt"]),
  (["m", "mark", "combiningmark"], ["mn", "mc", "me"]),
  (["n", "number"], ["nd", "nl", "no"]),
  (["p", "punctuation", "punct"], ["pc", "pd", "ps", "pe", "pi", "pf", "po"]),
  (["s", "symbol"], ["sm", "sc", "sk", "so"]),
  (["z", "separator"], ["zs", "zl", "zp"]),
  (["c", "other"], ["cc", "cf", "cn", "co", "surrogates"])]

def anyChar : CharSet := ⟨[(0, CharSet.maxCode)]⟩

def unionOf (sets : List CharSet) : CharSet := sets.foldl CharSet.union CharSet.empty

/-- The characters of a general category or of a group of them, under a name to look up. -/
def category? (name : String) : Option CharSet :=
  if name = "any" then some anyChar
  else if name = "ascii" then some ⟨[(0, 0x7F)]⟩
  else if name = "assigned" then
    (Packed.find? generalCategories "unassigned").map CharSet.negate
  else if name = "surrogates" then none
  else match categoryGroups.find? (·.1.contains name) with
    | some group => some (unionOf (group.2.filterMap (Packed.find? generalCategories)))
    | none => Packed.find? generalCategories name

/-- The characters that some version of the standard has. -/
def age? (version : String) : Option CharSet :=
  match ages.findIdx? (·.1.contains version) with
  | some i => some (unionOf ((ages.take (i + 1)).map fun entry => Packed.toSet entry.2))
  | none => none

/-- The characters of the binary property, category or script of that name. -/
def property? (name : String) : Option CharSet :=
  let name := lookupName name
  Packed.find? binaryProperties name <|> category? name <|> Packed.find? scripts name

/-- The characters that have a value of a property. -/
def propertyValue? (property value : String) : Option CharSet :=
  let property := lookupName property
  let value := lookupName value
  if property = "gc" ∨ property = "generalcategory" then category? value
  else if property = "sc" ∨ property = "script" then Packed.find? scripts value
  else if property = "scx" ∨ property = "scriptextensions" then
    Packed.find? scriptExtensions value
  else if property = "age" then age? value
  else if property = "gcb" ∨ property = "graphemeclusterbreak" then
    Packed.find? graphemeBreaks value
  else if property = "wb" ∨ property = "wordbreak" then Packed.find? wordBreaks value
  else if property = "sb" ∨ property = "sentencebreak" then Packed.find? sentenceBreaks value
  else none

def category (name : String) : CharSet := (category? name).getD .empty

def binary (name : String) : CharSet := (Packed.find? binaryProperties name).getD .empty

/-- The decimal digits of all scripts. -/
def digits : CharSet := category "nd"

def blanks : CharSet := binary "whitespace"

/-- The characters of words: letters, marks, decimal digits, connectors and joiners. -/
def wordChars : CharSet :=
  unionOf [binary "alphabetic", category "m", category "nd", category "pc", binary "joincontrol"]

end PointSelect.Unicode
