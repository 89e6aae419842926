import PointSelect.Text.Blank

namespace PointSelect.Regex

/-- Drops blanks and comments, which run from `#` to the end of the line. -/
def skipVerbose (inComment : Bool) : List Char → List Char
  | [] => []
  | c :: cs =>
    if inComment then skipVerbose (c != '\n') cs
    else if Text.isBlank c then skipVerbose false cs
    else if c == '#' then skipVerbose true cs
    else c :: cs

/-- Drops what means nothing here: blanks and comments in verbose reading, else nothing. -/
def skip (verbose : Bool) (cs : List Char) : List Char :=
  if verbose then skipVerbose false cs else cs

/-- The text after the first character and what means nothing after it. -/
def advance (verbose : Bool) (cs : List Char) : List Char := skip verbose cs.tail

/-- The character after the first one that means something. In verbose reading the first
character of a comment that is neither blank nor `#` counts. -/
def peekVerbose (inComment : Bool) : List Char → Option Char
  | [] => none
  | c :: cs =>
    if Text.isBlank c then peekVerbose inComment cs
    else if !inComment && c == '#' then peekVerbose true cs
    else some c

def peek (verbose : Bool) (cs : List Char) : Option Char :=
  if verbose then
    match peekVerbose false cs.tail with
    | none => cs.tail.head?
    | c => c
  else cs.tail.head?

end PointSelect.Regex
