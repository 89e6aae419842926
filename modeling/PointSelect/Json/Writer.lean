import PointSelect.Number.Layout

namespace PointSelect.Json

/-- A lower-case hexadecimal digit. -/
def hexChar (n : Nat) : Char := Nat.digitChar (n % 16)

/-- A character inside quotes: quotes, backslashes and control characters are escaped. -/
def escapeChar (c : Char) : List Char :=
  match c with
  | '"' => ['\\', '"']
  | '\\' => ['\\', '\\']
  | '\x08' => ['\\', 'b']
  | '\x0C' => ['\\', 'f']
  | '\n' => ['\\', 'n']
  | '\r' => ['\\', 'r']
  | '\t' => ['\\', 't']
  | c =>
    if c.toNat < 0x20 then ['\\', 'u', '0', '0', hexChar (c.toNat / 16), hexChar c.toNat] else [c]

/-- A text in quotes. -/
def quote (s : String) : List Char := '"' :: s.toList.flatMap escapeChar ++ ['"']

/-- A number; what is no finite number becomes null. -/
def writeNumber (x : Binary64) : List Char :=
  if x.isFinite then x.writeChars .json else "null".toList

/-- A JSON text to be written. -/
inductive Document where
  /-- A number, a string or a word, as it is written. -/
  | atom (cs : List Char)
  | array (items : List Document)
  | object (members : List (String × Document))

namespace Document

def text (s : String) : Document := atom (quote s)

def number (x : Binary64) : Document := atom (writeNumber x)

def bool (b : Bool) : Document := atom (if b then "true".toList else "false".toList)

/-- Parts with a mark between them. -/
def joinWith (mark : List Char) : List (List Char) → List Char
  | [] => []
  | [p] => p
  | p :: ps => p ++ mark ++ joinWith mark ps

mutual

/-- The text without blanks. -/
def compact : Document → List Char
  | atom cs => cs
  | array items => '[' :: joinWith [','] (compactItems items) ++ [']']
  | object members => '{' :: joinWith [','] (compactMembers members) ++ ['}']

def compactItems : List Document → List (List Char)
  | [] => []
  | d :: ds => d.compact :: compactItems ds

def compactMembers : List (String × Document) → List (List Char)
  | [] => []
  | (k, d) :: ds => (quote k ++ ':' :: d.compact) :: compactMembers ds

end

/-- A line break and the blanks before what is nested so deep. -/
def newline (depth : Nat) : List Char := '\n' :: List.replicate (2 * depth) ' '

/-- Parts on lines of their own between two brackets; without parts the brackets touch. -/
def block (left right : Char) (depth : Nat) (parts : List (List Char)) : List Char :=
  if parts.isEmpty then [left, right]
  else left :: newline (depth + 1) ++ joinWith (',' :: newline (depth + 1)) parts ++
    newline depth ++ [right]

mutual

/-- The text with every part on a line of its own, nested by two blanks. -/
def pretty (depth : Nat) : Document → List Char
  | atom cs => cs
  | array items => block '[' ']' depth (prettyItems (depth + 1) items)
  | object members => block '{' '}' depth (prettyMembers (depth + 1) members)

def prettyItems (depth : Nat) : List Document → List (List Char)
  | [] => []
  | d :: ds => d.pretty depth :: prettyItems depth ds

def prettyMembers (depth : Nat) : List (String × Document) → List (List Char)
  | [] => []
  | (k, d) :: ds => (quote k ++ ':' :: ' ' :: d.pretty depth) :: prettyMembers depth ds

end

def writeCompact (d : Document) : String := String.ofList d.compact

def writePretty (d : Document) : String := String.ofList (d.pretty 0)

end Document

end PointSelect.Json
