import PointSelect.Number.Decimal
import PointSelect.Number.Integer
import PointSelect.Toml.Quoted

namespace PointSelect.Toml

/-- Reads at least one digit. A single underscore may stand between two digits. -/
def readDigits? (isDigit : Char → Bool) : List Char → Option (List Char × List Char)
  | [] => none
  | c :: '_' :: cs =>
    if isDigit c then (readDigits? isDigit cs).map fun (ds, rest) => (c :: ds, rest) else none
  | c :: cs =>
    if !isDigit c then none
    else if cs.head?.any isDigit then
      (readDigits? isDigit cs).map fun (ds, rest) => (c :: ds, rest)
    else some ([c], cs)

/-- Reads the digits of a whole number. A zero at the front is the only one. -/
def readWhole? : List Char → Option (List Char × List Char)
  | '0' :: cs => some (['0'], cs)
  | cs => readDigits? Char.isDigit cs

/-- Takes a sign off the front, and leaves it in the text of the number. -/
def takeSign : List Char → List Char × List Char
  | '-' :: cs => (['-'], cs)
  | '+' :: cs => (['+'], cs)
  | cs => ([], cs)

/-- Reads the part of a number that begins with a point, if there is one. -/
def readFraction? : List Char → Option (List Char × List Char)
  | '.' :: cs => (readDigits? Char.isDigit cs).map fun (ds, rest) => ('.' :: ds, rest)
  | cs => some ([], cs)

/-- Reads the exponent of a number, if there is one. -/
def readExponent? : List Char → Option (List Char × List Char)
  | c :: cs =>
    if c = 'e' ∨ c = 'E' then
      let (sign, cs) := takeSign cs
      (readDigits? Char.isDigit cs).map fun (ds, rest) => ('e' :: sign ++ ds, rest)
    else some ([], c :: cs)
  | [] => some ([], [])

/-- The word at the front of a text, if it is one of the given ones. -/
def dropWord? (words : List String) (cs : List Char) : Option (List Char) :=
  (words.find? fun w => w.toList.isPrefixOf cs).map fun w => cs.drop w.length

/-- Drops a decimal number. One with a fraction or an exponent may not be above the greatest number,
and one without has to fit into 64 bits. -/
def dropDecimal? (cs : List Char) : Option (List Char) := do
  let (sign, cs) := takeSign cs
  match dropWord? ["inf", "nan"] cs with
  | some rest => return rest
  | none =>
    let (whole, cs) ← readWhole? cs
    let (fraction, cs) ← readFraction? cs
    let (exponent, cs) ← readExponent? cs
    if fraction.isEmpty ∧ exponent.isEmpty then
      let n : Int := Decimal.ofDigits whole
      if InInt64 (if sign = ['-'] then -n else n) then return cs else none
    else if Binary64.readChars? (sign ++ whole ++ fraction ++ exponent) =
        some (.signed false .infinite) then none
    else return cs

/-- Drops a whole number that is written in the base of its second letter. -/
def dropBased? (base : Nat) (cs : List Char) : Option (List Char) := do
  let (digits, rest) ← readDigits? (fun c => (hexDigit? c).any (· < base)) cs
  let n := (digits.filterMap hexDigit?).foldl (base * · + ·) 0
  if InInt64 n then return rest else none

/-- Drops a number. -/
def dropNumber? : List Char → Option (List Char)
  | '0' :: 'x' :: cs => dropBased? 16 cs
  | '0' :: 'o' :: cs => dropBased? 8 cs
  | '0' :: 'b' :: cs => dropBased? 2 cs
  | cs => dropDecimal? cs

end PointSelect.Toml
