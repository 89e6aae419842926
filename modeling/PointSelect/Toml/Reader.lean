import PointSelect.Toml.Date
import PointSelect.Toml.Item
import PointSelect.Toml.Numeral

namespace PointSelect.Toml

/-- Drops blanks, line ends and comments. What no comment may hold stays, where nothing accepts it;
`inComment` tells that the text begins within a comment. -/
def skipGaps : Bool → List Char → List Char
  | _, [] => []
  | _, '\n' :: cs => skipGaps false cs
  | _, '\r' :: '\n' :: cs => skipGaps false cs
  | inComment, c :: cs =>
    if inComment && isPlain c then skipGaps true cs
    else if inComment then c :: cs
    else if isBlank c then skipGaps false cs
    else if c = '#' then skipGaps true cs
    else c :: cs

/-- Drops the rest of a line, which holds at most a comment. -/
def endLine? (cs : List Char) : Option (List Char) :=
  let rest := match cs.dropWhile isBlank with
    | '#' :: rest => rest.dropWhile isPlain
    | rest => rest
  if rest.isEmpty then some [] else takeNewline? rest

/-- The characters of a key without quotes. -/
def isKeyChar (c : Char) : Bool := c.isAlphanum || c == '-' || c == '_'

/-- Reads one part of a key. -/
def readKeyPart? (cs : List Char) : Option (String × List Char) :=
  let bare := cs.takeWhile isKeyChar
  if bare.isEmpty then readLine? cs else some (.ofList bare, cs.drop bare.length)

/-- A key has fewer parts than this, and a value is nested less deep. -/
def nestLimit : Nat := 80

/-- Reads a key of at most so many parts, with the blanks around them. -/
def readParts? : Nat → List Char → Option (List String × List Char)
  | 0, _ => none
  | n + 1, cs => do
    let (part, rest) ← readKeyPart? (cs.dropWhile isBlank)
    match rest.dropWhile isBlank with
    | '.' :: rest =>
      let (parts, rest) ← readParts? n rest
      return (part :: parts, rest)
    | rest => return ([part], rest)

/-- Reads a key: the tables that it leads through, and the name there. -/
def readKey? (cs : List Char) : Option (List String × String × List Char) := do
  let (parts, rest) ← readParts? (nestLimit - 1) cs
  return (parts.dropLast, ← parts.getLast?, rest)

/-- Reads a key, an equals sign and a value. -/
def readPair? (value? : List Char → Option (Item × List Char)) (cs : List Char) :
    Option ((List String × String × Item) × List Char) := do
  let (path, key, rest) ← readKey? cs
  let (item, rest) ← value? ((← dropMark? '=' rest).dropWhile isBlank)
  return ((path, key, item), rest)

/-- Reads the items of an array after its opening bracket. Each takes a character, so the length of
the text is `fuel` enough. -/
def readItems? (value? : List Char → Option (Item × List Char)) :
    Nat → List Char → Option (List Item × List Char)
  | 0, _ => none
  | fuel + 1, cs =>
    match skipGaps false cs with
    | ']' :: rest => some ([], rest)
    | cs => do
      let (item, rest) ← value? cs
      match skipGaps false rest with
      | ']' :: rest => return ([item], rest)
      | ',' :: rest =>
        let (items, rest) ← readItems? value? fuel rest
        return (item :: items, rest)
      | _ => none

/-- Reads the pairs of a table in braces, of which there is at least one. -/
def readPairs? (value? : List Char → Option (Item × List Char)) :
    Nat → List Char → Option (List (List String × String × Item) × List Char)
  | 0, _ => none
  | fuel + 1, cs => do
    let (pair, rest) ← readPair? value? cs
    match rest.dropWhile isBlank with
    | '}' :: rest => return ([pair], rest)
    | ',' :: rest =>
      let (pairs, rest) ← readPairs? value? fuel rest
      return (pair :: pairs, rest)
    | _ => none

/-- Reads a table in braces after the opening one. -/
def readInline? (value? : List Char → Option (Item × List Char)) (cs : List Char) :
    Option (Item × List Char) :=
  match cs.dropWhile isBlank with
  | '}' :: rest => some (.inline [], rest)
  | cs => do
    let (pairs, rest) ← readPairs? value? cs.length cs
    let entries ← pairs.foldlM (fun entries (path, key, item) =>
      Entries.insert? entries path key item) []
    return (.inline entries, rest)

/-- Reads a value that holds no others. -/
def readScalar? (cs : List Char) : Option (Item × List Char) :=
  if startsDate cs then (dropDate? cs).map fun rest => (.date, rest)
  else if startsTime cs then (dropTime? cs).map fun rest => (.date, rest)
  else ((readString? cs).map fun (s, rest) => (.text s, rest)) <|>
    ((dropWord? ["true"] cs).map fun rest => (.bool true, rest)) <|>
    ((dropWord? ["false"] cs).map fun rest => (.bool false, rest)) <|>
    ((dropNumber? cs).map fun rest => (.number, rest))

/-- Reads a value that holds others down to the given depth. -/
def readValue? : Nat → List Char → Option (Item × List Char)
  | depth + 1, '[' :: cs =>
    (readItems? (readValue? depth) (cs.length + 1) cs).map fun (items, rest) => (.array items, rest)
  | depth + 1, '{' :: cs => readInline? (readValue? depth) cs
  | _, cs => readScalar? cs

/-- Reads one statement and the end of its line. -/
def readStatement? : List Char → Option (Statement × List Char)
  | '[' :: '[' :: cs => do
    let (path, key, rest) ← readKey? cs
    return (.element path key, ← endLine? (← dropMark? ']' (← dropMark? ']' rest)))
  | '[' :: cs => do
    let (path, key, rest) ← readKey? cs
    return (.header path key, ← endLine? (← dropMark? ']' rest))
  | cs => do
    let ((path, key, item), rest) ← readPair? (readValue? (nestLimit - 1)) cs
    return (.pair path key item, ← endLine? rest)

/-- Reads all statements. Each takes a character, so the length of the text is `fuel` enough. -/
def readStatements? : Nat → List Char → Option (List Statement)
  | 0, _ => none
  | fuel + 1, cs =>
    match skipGaps false cs with
    | [] => some []
    | cs => do
      let (statement, rest) ← readStatement? cs
      return statement :: (← readStatements? fuel rest)

/-- Reads a TOML text: the entries of its root table. A byte order mark may stand before it. -/
def read? (text : String) : Option Entries := do
  let cs := match text.toList with
    | '\uFEFF' :: cs => cs
    | cs => cs
  Statement.run? (← readStatements? (cs.length + 1) cs) [] []

end PointSelect.Toml
