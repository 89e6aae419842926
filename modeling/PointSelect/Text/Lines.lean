namespace PointSelect.Text

/-- The lines of a text. A line feed ends a line, and a carriage return right before it belongs to
the line end; what follows the last line feed is a line unless it is empty. -/
def lines : List Char → List (List Char)
  | [] => []
  | '\n' :: cs => [] :: lines cs
  | '\r' :: '\n' :: cs => [] :: lines cs
  | c :: cs => match lines cs with
    | [] => [[c]]
    | l :: ls => (c :: l) :: ls

end PointSelect.Text
