import PointSelect.Json.Value
import PointSelect.Number.Hexadecimal

namespace PointSelect.Json

/-- Drops the blanks between the parts of a JSON text. -/
def skipBlanks (cs : List Char) : List Char :=
  cs.dropWhile fun c => c == ' ' || c == '\n' || c == '\t' || c == '\r'

/-- What an escaped letter stands for. -/
def escaped? : Char → Option Char
  | '"' => some '"'
  | '\\' => some '\\'
  | '/' => some '/'
  | 'b' => some '\x08'
  | 'f' => some '\x0C'
  | 'n' => some '\n'
  | 'r' => some '\r'
  | 't' => some '\t'
  | _ => none

/-- Reads a string after its opening quote. -/
def readString? : List Char → Option (Written × List Char)
  | [] => none
  | '"' :: cs => some ([], cs)
  | '\\' :: 'u' :: a :: b :: c :: d :: cs => do
    let n := (((← hexDigit? a) * 16 + (← hexDigit? b)) * 16 + (← hexDigit? c)) * 16 +
      (← hexDigit? d)
    let (s, rest) ← readString? cs
    return (.unit n :: s, rest)
  | '\\' :: c :: cs => do
    let x ← escaped? c
    let (s, rest) ← readString? cs
    return (.octet x :: s, rest)
  | c :: cs =>
    if c.toNat < 0x20 || c == '\\' then none
    else do
      let (s, rest) ← readString? cs
      return (.octet c :: s, rest)

/-- Takes at least one digit. -/
def takeDigits? (cs : List Char) : Option (List Char × List Char) :=
  let digits := cs.takeWhile Char.isDigit
  if digits.isEmpty then none else some (digits, cs.dropWhile Char.isDigit)

/-- Reads the part of a number that begins with a point, if there is one. -/
def readFraction? : List Char → Option (Option (List Char) × List Char)
  | '.' :: cs => (takeDigits? cs).map fun (digits, rest) => (some digits, rest)
  | cs => some (none, cs)

/-- Reads the exponent of a number, if there is one. -/
def readExponent? : List Char → Option (Option (Bool × List Char) × List Char)
  | c :: cs =>
    if c == 'e' || c == 'E' then
      let (negative, cs) := match cs with
        | '-' :: rest => (true, rest)
        | '+' :: rest => (false, rest)
        | _ => (false, cs)
      (takeDigits? cs).map fun (digits, rest) => (some (negative, digits), rest)
    else some (none, c :: cs)
  | [] => some (none, [])

/-- Reads a number after its sign. A zero is the only digit before the point if it is the first. -/
def readNumber? (negative : Bool) (cs : List Char) : Option (Numeral × List Char) := do
  let (whole, rest) ← takeDigits? cs
  if whole.head? == some '0' && whole.length ≠ 1 then none
  else
    let (fraction, rest) ← readFraction? rest
    let (exponent, rest) ← readExponent? rest
    return (⟨negative, whole, fraction, exponent⟩, rest)

/-- Takes a word off the front. -/
def takeWord? (word : String) (cs : List Char) : Option (List Char) :=
  if word.toList.isPrefixOf cs then some (cs.drop word.length) else none

mutual

/-- Reads a value. No more than two steps are made for a character, so `fuel` is enough if it is
above twice their number. -/
def readValue? : Nat → List Char → Option (Value × List Char)
  | 0, _ => none
  | fuel + 1, cs =>
    match skipBlanks cs with
    | '"' :: rest => (readString? rest).map fun (s, rest) => (.string s, rest)
    | '[' :: rest => match skipBlanks rest with
      | ']' :: rest => some (.array [], rest)
      | rest => (readItems? fuel rest).map fun (items, rest) => (.array items, rest)
    | '{' :: rest => match skipBlanks rest with
      | '}' :: rest => some (.object [], rest)
      | rest => (readMembers? fuel rest).map fun (members, rest) => (.object members, rest)
    | '-' :: rest => (readNumber? true rest).map fun (n, rest) => (.number n, rest)
    | c :: rest =>
      if c.isDigit then (readNumber? false (c :: rest)).map fun (n, rest) => (.number n, rest)
      else ((takeWord? "null" (c :: rest)).map fun rest => (.null, rest)) <|>
        ((takeWord? "true" (c :: rest)).map fun rest => (.bool true, rest)) <|>
        ((takeWord? "false" (c :: rest)).map fun rest => (.bool false, rest))
    | [] => none

/-- Reads the items of an array up to its closing bracket. -/
def readItems? : Nat → List Char → Option (List Value × List Char)
  | 0, _ => none
  | fuel + 1, cs => do
    let (v, rest) ← readValue? fuel cs
    match skipBlanks rest with
    | ']' :: rest => return ([v], rest)
    | ',' :: rest =>
      let (vs, rest) ← readItems? fuel rest
      return (v :: vs, rest)
    | _ => none

/-- Reads the members of an object up to its closing brace. -/
def readMembers? : Nat → List Char → Option (List (Written × Value) × List Char)
  | 0, _ => none
  | fuel + 1, cs =>
    match skipBlanks cs with
    | '"' :: rest => do
      let (key, rest) ← readString? rest
      match skipBlanks rest with
      | ':' :: rest =>
        let (v, rest) ← readValue? fuel rest
        match skipBlanks rest with
        | '}' :: rest => return ([(key, v)], rest)
        | ',' :: rest =>
          let (members, rest) ← readMembers? fuel rest
          return ((key, v) :: members, rest)
        | _ => none
      | _ => none
    | _ => none

end

/-- Reads a JSON text from its octets: one value and nothing else. -/
def read? (cs : List Char) : Option Value := do
  let (v, rest) ← readValue? (2 * cs.length + 2) cs
  if (skipBlanks rest).isEmpty then some v else none

/-- Reads a JSON text. -/
def readText? (s : String) : Option Value := read? (Text.octets (Text.Utf8.encodeString s))

end PointSelect.Json
