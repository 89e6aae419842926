import PointSelect.Number.Shortest

namespace PointSelect

/-- How the digits of a number are laid out. -/
structure Layout where
  /-- The places of the decimal point, counted from the first digit, that are written without an
  exponent; `none` for all of them. -/
  positional : Option (Int × Int)
  /-- A whole number written without an exponent ends in a point and a zero. -/
  pointZero : Bool
  /-- A positive exponent has a plus sign. -/
  plusSign : Bool
  tie : Tie

namespace Layout

/-- The form in messages and pattern texts: digits and a point only. -/
def plain : Layout := ⟨none, false, false, .upper⟩

/-- The form in reports, with an exponent below 0.0001 and from 10¹⁶ on. -/
def report : Layout := ⟨some (-3, 16), true, false, .upper⟩

/-- The form in JSON texts, with an exponent below 0.00001 and from 10¹⁶ on. -/
def json : Layout := ⟨some (-4, 16), true, true, .even⟩

def zeros (n : Nat) : List Char := List.replicate n '0'

/-- Whether a number with its point at place `p` is written without an exponent. -/
def isPositional (l : Layout) (p : Int) : Bool :=
  match l.positional with
  | none => true
  | some (low, high) => low ≤ p && p ≤ high

/-- The digits with a point at place `p`. -/
def writePositional (l : Layout) (ds : List Char) (p : Int) : List Char :=
  if p ≤ 0 then '0' :: '.' :: zeros (-p).toNat ++ ds
  else if p.toNat < ds.length then ds.take p.toNat ++ '.' :: ds.drop p.toNat
  else ds ++ zeros (p.toNat - ds.length) ++ if l.pointZero then ['.', '0'] else []

/-- One digit, a point if more follow, and the exponent `e`. -/
def writeScientific (l : Layout) (ds : List Char) (e : Int) : List Char :=
  let mantissa := match ds with
    | d :: r@(_ :: _) => d :: '.' :: r
    | _ => ds
  let sign := if e < 0 then ['-'] else if l.plusSign then ['+'] else []
  mantissa ++ 'e' :: sign ++ Nat.toDigits 10 e.natAbs

/-- The number `d` · 10 ^ `e`. -/
def writeDecimal (l : Layout) (d : Nat) (e : Int) : List Char :=
  let ds := Nat.toDigits 10 d
  let p := ds.length + e
  if l.isPositional p then l.writePositional ds p else l.writeScientific ds (p - 1)

def writeMagnitude (l : Layout) (m : Magnitude) : List Char :=
  if m.val = 0 then '0' :: if l.pointZero then ['.', '0'] else []
  else
    let best := m.shortest l.tie
    l.writeDecimal best.1 best.2

/-- The text of a number without its sign. -/
def writeSize (l : Layout) (m : Magnitude) : List Char :=
  if m.isFinite then l.writeMagnitude m else ['i', 'n', 'f']

end Layout

namespace Binary64

/-- The text of a number in a layout. NaN has no sign. -/
def writeChars (l : Layout) : Binary64 → List Char
  | nan => ['N', 'a', 'N']
  | signed negative m => if negative then '-' :: l.writeSize m else l.writeSize m

def write (l : Layout) (x : Binary64) : String := String.ofList (x.writeChars l)

end Binary64

end PointSelect
