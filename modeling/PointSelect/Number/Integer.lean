import PointSelect.Number.Hexadecimal

namespace PointSelect

/-- The decimal text of an integer. -/
def writeInt (n : Int) : List Char :=
  if n < 0 then '-' :: Nat.toDigits 10 n.natAbs else Nat.toDigits 10 n.natAbs

/-- The integers that a 64-bit word holds. -/
def InInt64 (n : Int) : Prop := -0x8000000000000000 ≤ n ∧ n < 0x8000000000000000

instance (n : Int) : Decidable (InInt64 n) := inferInstanceAs (Decidable (_ ∧ _))

/-- The 64-bit word of an integer, if one holds it. -/
def toInt64? (n : Int) : Option Int64 := if InInt64 n then some (Int64.ofInt n) else none

/-- The value of a run of digits in a base up to sixteen. -/
def readNat? (base : Nat) (cs : List Char) : Option Nat :=
  if cs.isEmpty then none
  else cs.foldlM (fun n c => do
    let d ← hexDigit? c
    if d < base then some (base * n + d) else none) 0

/-- The integer that a text denotes in a base up to sixteen, with at most one sign. -/
def readInt? (base : Nat) : List Char → Option Int
  | '-' :: cs => (readNat? base cs).map fun n => -(n : Int)
  | '+' :: cs => (readNat? base cs).map fun n => (n : Int)
  | cs => (readNat? base cs).map fun n => (n : Int)

end PointSelect
