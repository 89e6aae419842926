import PointSelect.Json.Value
import PointSelect.Number.Arithmetic
import PointSelect.Number.Integer

namespace PointSelect.Json.Numeral

/-- The greatest number that digits are collected in. -/
def maxSignificand : Nat := 0xFFFFFFFFFFFFFFFF

/-- The greatest exponent that digits are collected in. -/
def maxExponent : Nat := 0x7FFFFFFF

/-- Appends digits to a number as long as it stays below a bound; the digits left over come back. -/
def collect (bound n : Nat) : List Char → Nat × List Char
  | [] => (n, [])
  | c :: cs =>
    let next := 10 * n + (c.toNat - '0'.toNat)
    if bound < next then (n, c :: cs) else collect bound next cs

/-- Multiplies by a power of ten in steps of table values, each step rounded. A magnitude beyond the
greatest finite one is refused. There are no more steps than `fuel`. -/
def scale? (m : Magnitude) : Nat → Int → Option Magnitude
  | 0, _ => some m
  | fuel + 1, e =>
    if e.natAbs ≤ 308 then
      if 0 ≤ e then
        let r := m.mul (.tenPow e.toNat)
        if r.isFinite then some r else none
      else some (m.div (.tenPow e.natAbs))
    else if m = .zero then some m
    else if 0 ≤ e then none
    else scale? (m.div (.tenPow 308)) fuel (e + 308)

/-- The digits collected and the power of ten they are meant with; digits that do not fit in count
only before the point. -/
def significand (n : Numeral) : Nat × Int :=
  let (s, left) := collect maxSignificand 0 n.whole
  let fraction := n.fraction.getD []
  let (s, rest) := collect maxSignificand s fraction
  (s, (left.length : Int) - (fraction.length - rest.length : Nat))

/-- Keeps an exponent within 32 bits. -/
def clamp (e : Int) : Int := max (-0x80000000) (min 0x7FFFFFFF e)

/-- The magnitude of a number, which may miss the nearest one by the rounding of several steps. -/
def magnitude? (n : Numeral) : Option Magnitude :=
  let (s, e) := n.significand
  let shift? := match n.exponent with
    | none => some (some e)
    | some (negative, digits) =>
      let (d, left) := collect maxExponent 0 digits
      if left.isEmpty then some (some (clamp (if negative then e - d else e + d)))
      else if s ≠ 0 && !negative then none else some none
  match shift? with
  | none => none
  | some none => some .zero
  | some (some e) =>
    if n.fraction.isNone && n.exponent.isNone && e = 0 then some (.ofNat s)
    else scale? (.ofNat s) (e.natAbs / 308 + 2) e

/-- The number meant, unless it is too large. -/
def toBinary64? (n : Numeral) : Option Binary64 := n.magnitude?.map (.signed n.negative)

/-- The 64-bit integer meant. A number with a point or an exponent is none, and neither is a
negative zero. -/
def toInt64? (n : Numeral) : Option Int64 :=
  if n.fraction.isSome || n.exponent.isSome then none
  else
    let d := Decimal.ofDigits n.whole
    if n.negative && d = 0 then none else PointSelect.toInt64? (if n.negative then -d else d)

end PointSelect.Json.Numeral
