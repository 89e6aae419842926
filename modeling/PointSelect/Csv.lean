import PointSelect.Text.Utf8

namespace PointSelect.Csv

/-- Where a character of a CSV text stands. -/
inductive Position where
  | lineStart
  | fieldStart
  | bare
  | quoted
  /-- After a quote within quotes, which either ends them or is the first of a doubled one. -/
  | quoteEnd
  deriving DecidableEq

def isLineEnd (c : Char) : Bool := c == '\n' || c == '\r'

/-- Puts a character before the first field of the first row. -/
def pushChar (c : Char) : List (List (List Char)) → List (List (List Char))
  | (field :: fields) :: rows => ((c :: field) :: fields) :: rows
  | rows => rows

/-- Puts an empty field before the first row. -/
def pushField : List (List (List Char)) → List (List (List Char))
  | row :: rows => ([] :: row) :: rows
  | [] => []

/-- The rows of a text from a position on. A quote at the start of a field opens quotes, in which
commas and line ends mean nothing and a doubled quote is one. Lines without a character are left
out. -/
def rowsFrom : Position → List Char → List (List (List Char))
  | .lineStart, [] => []
  | _, [] => [[[]]]
  | .quoted, c :: cs => if c = '"' then rowsFrom .quoteEnd cs else pushChar c (rowsFrom .quoted cs)
  | .quoteEnd, '"' :: cs => pushChar '"' (rowsFrom .quoted cs)
  | .lineStart, '"' :: cs => rowsFrom .quoted cs
  | .fieldStart, '"' :: cs => rowsFrom .quoted cs
  | p, c :: cs =>
    if c = ',' then pushField (rowsFrom .fieldStart cs)
    else if !isLineEnd c then pushChar c (rowsFrom .bare cs)
    else if p = .lineStart then rowsFrom .lineStart cs
    else [[]] :: rowsFrom .lineStart cs

/-- A table: the names of its columns unless they are no text, and its rows. -/
structure Table where
  names : Option (List String)
  rows : List (List String)

/-- The fields of a row if all are texts. -/
def textRow? (row : List (List Char)) : Option (List String) :=
  row.mapM fun field => (Text.ofOctets? field).map String.ofList

/-- The octets of a byte order mark, which may stand before a text. -/
def byteOrderMark : List Char := Text.octets (Text.Utf8.encodeChar '\uFEFF')

/-- Reads a table from its octets. The first row names the columns, and every row has as many
fields. -/
def read? (cs : List Char) : Option Table :=
  let body := if byteOrderMark.isPrefixOf cs then cs.drop byteOrderMark.length else cs
  match rowsFrom .lineStart body with
  | [] => some ⟨some [], []⟩
  | names :: rows =>
    if rows.all (·.length = names.length) then (rows.mapM textRow?).map fun rows =>
      ⟨textRow? names, rows⟩
    else none

/-- The fields of a row under the given names; none where a field is missing. Without names of
columns they are taken in order. A name of two columns is refused. -/
def fields? (names : List String) (columns : Option (List String)) (row : List String) :
    Option (List (Option String)) :=
  match columns with
  | none => some ((List.range names.length).map (row[·]?))
  | some columns => names.mapM fun name =>
    match (columns.zip row).filter (·.1 = name) with
    | [] => some none
    | [(_, field)] => some (some field)
    | _ => none

end PointSelect.Csv
