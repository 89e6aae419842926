import PointSelect.Number.Binary64

namespace PointSelect

/-- The decimal number ± `digits` · 10 ^ `exponent`. -/
structure Decimal where
  negative : Bool
  digits : Nat
  exponent : Int
  deriving DecidableEq

namespace Decimal

/-- The magnitude nearest to `digits` · 10 ^ `exponent`. -/
def magnitudeOf (digits : Nat) (exponent : Int) : Magnitude :=
  if 0 ≤ exponent then .ofRatio (digits * Nat.pow 10 exponent.toNat * oneUnits) 1
  else .ofRatio (digits * oneUnits) (Nat.pow 10 (-exponent).toNat)

/-- An exponent beyond ±400 decides overflow or underflow alone, so none larger is computed with. -/
def boundedExponent (digits : Nat) (exponent : Int) : Int :=
  max (-(400 + digits.log2 : Nat)) (min 400 exponent)

/-- The nearest binary64 number; a half goes to the even neighbour. -/
def toBinary64 (d : Decimal) : Binary64 :=
  .signed d.negative (magnitudeOf d.digits (boundedExponent d.digits d.exponent))

/-- The value of a run of decimal digits. -/
def ofDigits (cs : List Char) : Nat :=
  cs.foldl (fun n c => 10 * n + (c.toNat - '0'.toNat)) 0

/-- Takes a leading sign off; true stands for minus. -/
def takeSign : List Char → Bool × List Char
  | '-' :: cs => (true, cs)
  | '+' :: cs => (false, cs)
  | cs => (false, cs)

/-- What may follow the digits: nothing, or `e` with a whole number. -/
def readExponent? : List Char → Option Int
  | [] => some 0
  | c :: cs =>
    let (negative, ds) := takeSign cs
    if (c == 'e' || c == 'E') && !ds.isEmpty && ds.all Char.isDigit then
      some (if negative then -(ofDigits ds : Int) else ofDigits ds)
    else none

/-- Digits with at most one point and at least one digit, then an exponent if there is one. -/
def readUnsigned? (negative : Bool) (cs : List Char) : Option Decimal :=
  let whole := cs.takeWhile Char.isDigit
  let rest := cs.dropWhile Char.isDigit
  let (fraction, rest) := match rest with
    | '.' :: r => (r.takeWhile Char.isDigit, r.dropWhile Char.isDigit)
    | _ => ([], rest)
  if whole.isEmpty && fraction.isEmpty then none
  else (readExponent? rest).map fun e =>
    ⟨negative, ofDigits (whole ++ fraction), e - fraction.length⟩

end Decimal

namespace Binary64

/-- The names of the numbers without digits, in any letter case. -/
def named? (negative : Bool) (cs : List Char) : Option Binary64 :=
  let name := String.ofList (cs.map Char.toLower)
  if name = "nan" then some .nan
  else if name = "inf" ∨ name = "infinity" then some (.signed negative .infinite)
  else none

/-- A number literal: a sign, then digits or a name, and nothing else. -/
def readChars? (cs : List Char) : Option Binary64 :=
  let (negative, rest) := Decimal.takeSign cs
  match Decimal.readUnsigned? negative rest with
  | some d => some d.toBinary64
  | none => named? negative rest

/-- The number that a text denotes. -/
def read? (s : String) : Option Binary64 := readChars? s.toList

end Binary64

end PointSelect
