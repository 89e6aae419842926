namespace PointSelect.Toml

/-- How a table came about: by its own header, by a longer header, or by a dotted key. -/
inductive Origin where
  | header
  | longerHeader
  | dottedKey
  deriving DecidableEq

/-- A value or a table of a TOML text. Of numbers and dates only their kind is kept. -/
inductive Item where
  | text (s : String)
  | bool (b : Bool)
  | number
  | date
  | array (items : List Item)
  /-- A table in braces. -/
  | inline (entries : List (String × Item))
  | table (origin : Origin) (entries : List (String × Item))
  /-- The tables of an array whose elements have headers, the last one first. -/
  | tables (elements : List (List (String × Item)))

/-- The entries of a table. -/
abbrev Entries := List (String × Item)

namespace Entries

def get? (entries : Entries) (key : String) : Option Item :=
  (entries.find? (·.1 = key)).map (·.2)

/-- Gives an item to a key, in the place of the one it had or after all others. -/
def put (entries : Entries) (key : String) (item : Item) : Entries :=
  if (entries.get? key).isSome then entries.map fun e => if e.1 = key then (key, item) else e
  else entries ++ [(key, item)]

/-- Changes the table at the end of a path. A table that is missing on the way is made with the
origin `missing`, and of an array of tables the last one is meant. With `missing` a dotted key the
path does not go through a table that has a header. -/
def change (missing : Origin) (f : Origin → Entries → Option Entries) :
    List String → Origin → Entries → Option Entries
  | [], origin, entries => f origin entries
  | key :: path, _, entries =>
    match (entries.get? key).getD (.table missing []) with
    | .table origin inner =>
      if missing = .dottedKey ∧ origin = .header then none
      else (change missing f path origin inner).map fun inner =>
        entries.put key (.table origin inner)
    | .tables (last :: elements) =>
      (change missing f path .header last).map fun last =>
        entries.put key (.tables (last :: elements))
    | _ => none

/-- Adds the value of a key. The tables of a dotted key are its own: the last of them is one that a
dotted key made. No key is given twice. -/
def insert? (entries : Entries) (path : List String) (key : String) (item : Item) :
    Option Entries :=
  change .dottedKey (fun origin inner =>
    if path ≠ [] ∧ origin ≠ .dottedKey ∨ (inner.get? key).isSome then none
    else some (inner.put key item)) path .header entries

/-- Opens the table of a header. Only a longer header may have named it before. -/
def openTable? (entries : Entries) (key : String) : Option Entries :=
  match (entries.get? key).getD (.table .longerHeader []) with
  | .table .longerHeader inner => some (entries.put key (.table .header inner))
  | _ => none

/-- Opens a further table of an array. -/
def openElement? (entries : Entries) (key : String) : Option Entries :=
  match (entries.get? key).getD (.tables []) with
  | .tables elements => some (entries.put key (.tables ([] :: elements)))
  | _ => none

end Entries

/-- A statement of a TOML text. -/
inductive Statement where
  | pair (path : List String) (key : String) (item : Item)
  | header (path : List String) (key : String)
  | element (path : List String) (key : String)

namespace Statement

/-- Carries statements out one after the other; `place` is the path of the table opened last. -/
def run? : List Statement → List String → Entries → Option Entries
  | [], _, root => some root
  | .pair path key item :: rest, place, root => do
    run? rest place (← Entries.change .longerHeader
      (fun _ inner => inner.insert? path key item) place .header root)
  | .header path key :: rest, _, root => do
    run? rest (path ++ [key])
      (← Entries.change .longerHeader (fun _ inner => inner.openTable? key) path .header root)
  | .element path key :: rest, _, root => do
    run? rest (path ++ [key])
      (← Entries.change .longerHeader (fun _ inner => inner.openElement? key) path .header root)

end Statement

end PointSelect.Toml
