import PointSelect.Number.Decimal

namespace PointSelect.Magnitude

/-- The product of two finite magnitudes, rounded. -/
def mul (a b : Magnitude) : Magnitude := ofRatio (a.val * b.val) oneUnits

/-- The quotient of two finite magnitudes, rounded; the divisor is not zero. -/
def div (a b : Magnitude) : Magnitude := ofRatio (a.val * oneUnits) b.val

/-- The magnitude nearest to a whole number. -/
def ofNat (n : Nat) : Magnitude := ofRatio (n * oneUnits) 1

/-- The power of ten nearest to 10 ^ `k`. -/
def tenPow (k : Nat) : Magnitude := Decimal.magnitudeOf 1 k

end PointSelect.Magnitude
