import PointSelect.Text.Blank

namespace PointSelect.Pattern

/-- The text before the first `#` that stands after a blank or, if `fresh`, at the start. -/
def beforeComment : Bool → List Char → List Char
  | _, [] => []
  | fresh, c :: cs =>
    if fresh && c == '#' then [] else c :: beforeComment (Text.isBlank c) cs

/-- A line without its comment and without blanks at its ends. -/
def stripChars (line : List Char) : List Char := Text.trim (beforeComment true line)

def stripComment (line : String) : String := String.ofList (stripChars line.toList)

end PointSelect.Pattern
