import PointSelect.Number.Hexadecimal

namespace PointSelect.Toml

def isBlank (c : Char) : Bool := c == ' ' || c == '\t'

/-- The characters that comments and strings hold unescaped; of the control characters a tab. -/
def isPlain (c : Char) : Bool := c == '\t' || (0x20 ≤ c.toNat && c.toNat ≠ 0x7F)

/-- Drops blanks and line ends. A carriage return is part of a line end only before a line feed. -/
def skipBlankLines : List Char → List Char
  | [] => []
  | '\r' :: '\n' :: cs => skipBlankLines cs
  | c :: cs => if isBlank c || c == '\n' then skipBlankLines cs else c :: cs

/-- Drops a line end. -/
def takeNewline? : List Char → Option (List Char)
  | '\n' :: cs => some cs
  | '\r' :: '\n' :: cs => some cs
  | _ => none

/-- The character with the number that hexadecimal digits give. -/
def charOfHex? (digits : List Char) : Option Char := do
  let n := (← digits.mapM hexDigit?).foldl (16 * · + ·) 0
  if n.isValidChar then some (Char.ofNat n) else none

/-- What stands for one character after a backslash. -/
def escaped? : Char → Option Char
  | 'b' => some '\x08'
  | 'f' => some '\x0C'
  | 'n' => some '\n'
  | 'r' => some '\r'
  | 't' => some '\t'
  | '"' => some '"'
  | '\\' => some '\\'
  | _ => none

/-- Reads what follows a backslash, and tells how many characters that takes. In a string of several
lines the backslash may stand at the end of a line; all blanks up to the next text go with it. -/
def readEscape? (multiline : Bool) (cs : List Char) : Option (List Char × Nat) :=
  match cs with
  | 'u' :: cs =>
    if cs.length < 4 then none else (charOfHex? (cs.take 4)).map fun c => ([c], 5)
  | 'U' :: cs =>
    if cs.length < 8 then none else (charOfHex? (cs.take 8)).map fun c => ([c], 9)
  | c :: _ =>
    if multiline && (takeNewline? (cs.dropWhile isBlank)).isSome then
      some ([], cs.length - (skipBlankLines cs).length)
    else (escaped? c).map fun c => ([c], 1)
  | [] => none

/-- Reads the rest of a string up to its closing quote. Backslashes mean something between double
quotes. A string of several lines ends with three quotes, before which two more may belong to its
text, and its line ends are line feeds. -/
def readQuoted? (quote : Char) (multiline : Bool) (cs : List Char) :
    Option (List Char × List Char) :=
  match cs with
  | [] => none
  | c :: rest =>
    if c = quote ∧ !multiline then some ([], rest)
    else if c = quote ∧ [quote, quote].isPrefixOf rest then
      let more := ((rest.drop 2).takeWhile (· = quote)).take 2
      some (more, rest.drop (2 + more.length))
    else if c = '\\' ∧ quote = '"' then do
      let (text, n) ← readEscape? multiline rest
      let (s, rest) ← readQuoted? quote multiline (rest.drop n)
      return (text ++ s, rest)
    else if multiline ∧ c = '\r' ∧ rest.head? = some '\n' then readQuoted? quote multiline rest
    else if isPlain c || (multiline && c == '\n') then
      (readQuoted? quote multiline rest).map fun (s, rest) => (c :: s, rest)
    else none
  termination_by cs.length
  decreasing_by all_goals simp only [List.length_drop, List.length_cons]; omega

/-- Reads a string of one line with either quote, after which anything may follow. -/
def readLine? : List Char → Option (String × List Char)
  | q :: cs =>
    if q = '"' ∨ q = '\'' then (readQuoted? q false cs).map fun (s, rest) => (.ofList s, rest)
    else none
  | [] => none

/-- Reads a string of one or of several lines. A line end right after the opening quotes of several
lines is not part of it. -/
def readString? : List Char → Option (String × List Char)
  | q :: cs =>
    if (q = '"' ∨ q = '\'') ∧ [q, q].isPrefixOf cs then
      let body := cs.drop 2
      (readQuoted? q true ((takeNewline? body).getD body)).map fun (s, rest) => (.ofList s, rest)
    else readLine? (q :: cs)
  | [] => none

end PointSelect.Toml
