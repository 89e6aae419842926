import PointSelect.Toml.Item

namespace PointSelect.Toml.Item

def toBool? : Item → Option Bool
  | bool b => some b
  | _ => none

/-- A table or an array without contents. -/
def isVoid : Item → Bool
  | array [] | inline [] | table _ [] | tables [] => true
  | _ => false

/-- The alternative of a choice without contents: its name, or a table that gives it nothing. -/
def toName? : Item → Option String
  | text s => some s
  | inline [(k, item)] | table _ [(k, item)] => if item.isVoid then some k else none
  | _ => none

/-- The values of named fields in order; none where a field is missing. A record is a table, or an
array of the fields in order. What it holds beyond them means nothing, and a date holds no field. -/
def fields? (names : List String) : Item → Option (List (Option Item))
  | inline entries | table _ entries => some (names.map (Entries.get? entries))
  | array items => some ((List.range names.length).map (items[·]?))
  | tables elements =>
    let items := elements.reverse.map (Item.table .header)
    some ((List.range names.length).map (items[·]?))
  | date => some (names.map fun _ => none)
  | _ => none

end PointSelect.Toml.Item
