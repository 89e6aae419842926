import PointSelect.Number.Magnitude

namespace PointSelect

/-- A binary64 number. All NaNs are one value; zero keeps its sign. -/
inductive Binary64 where
  | nan
  | signed (negative : Bool) (size : Magnitude)
  deriving DecidableEq

namespace Binary64

def infinity : Binary64 := .signed false .infinite

def negInfinity : Binary64 := .signed true .infinite

instance : Inhabited Binary64 := ⟨.signed false .zero⟩

def isFinite : Binary64 → Bool
  | nan => false
  | signed _ m => m.isFinite

/-- The place of a number in the order, in units of 2⁻¹⁰⁷⁴: both zeros have one place, NaN none. -/
def key : Binary64 → Option Int
  | nan => none
  | signed true m => some (-(m.val : Int))
  | signed false m => some m.val

/-- A comparison of keys; with NaN it never holds. -/
def compareKeys (r : Int → Int → Bool) (x y : Binary64) : Bool :=
  match x.key, y.key with
  | some a, some b => r a b
  | _, _ => false

/-- At most. -/
def le (x y : Binary64) : Bool := compareKeys (fun a b => a ≤ b) x y

/-- Below. -/
def lt (x y : Binary64) : Bool := compareKeys (fun a b => a < b) x y

/-- Numerical equality: NaN equals nothing and the two zeros are equal. -/
def equal (x y : Binary64) : Bool := compareKeys (fun a b => a = b) x y

/-- The number nearest to an integer. -/
def ofInt (n : Int) : Binary64 := .signed (n < 0) (.ofRatio (n.natAbs * oneUnits) 1)

/-- Whether a finite number has no fractional part. -/
def isWhole : Binary64 → Bool
  | nan => false
  | signed _ m => m.val % oneUnits = 0

/-- The whole part of a finite number, cut toward zero. -/
def truncate : Binary64 → Int
  | nan => 0
  | signed negative m =>
    let n : Int := m.val / oneUnits
    if negative then -n else n

end Binary64

end PointSelect
