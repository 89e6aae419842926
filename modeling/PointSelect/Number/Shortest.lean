import PointSelect.Number.Decimal

namespace PointSelect

/-- Which of two equally near decimals is written. -/
inductive Tie where
  | upper
  | even
  deriving DecidableEq

namespace Magnitude

/-- The magnitude as a whole number of 10⁻¹⁰⁷⁴. -/
def fine (m : Magnitude) : Nat := m.val * Nat.pow 5 oneExponent

/-- Whether `d` steps of 10 ^ `j` · 10⁻¹⁰⁷⁴ read back as `m`. -/
def readsBack (m : Magnitude) (j d : Nat) : Bool :=
  Decimal.magnitudeOf d ((j : Int) - oneExponent) = m

/-- The multiple of 10 ^ `j` that reads back as `m`: of the two around `m` the nearer one. -/
def onGrid? (tie : Tie) (m : Magnitude) (j : Nat) : Option Nat :=
  let low := m.fine / Nat.pow 10 j
  let up := low + 1
  let r := m.fine % Nat.pow 10 j
  match m.readsBack j low, m.readsBack j up with
  | false, false => none
  | true, false => some low
  | false, true => some up
  | true, true =>
    if 2 * r < Nat.pow 10 j then some low
    else if 2 * r > Nat.pow 10 j then some up
    else match tie with
      | .upper => some up
      | .even => some (if low % 2 = 0 then low else up)

/-- The coarsest grid from 10 ^ `j` down that has a decimal reading back as `m`. The finest grid
holds `m` itself. -/
def coarsest (tie : Tie) (m : Magnitude) : Nat → Nat × Nat
  | 0 => (m.fine, 0)
  | j + 1 => match onGrid? tie m (j + 1) with
    | some d => (d, j + 1)
    | none => coarsest tie m j

/-- The fewest digits that read back as `m`, nearest to `m` among those: the pair of `d` and `e`
stands for `d` · 10 ^ `e`. -/
def shortest (tie : Tie) (m : Magnitude) : Nat × Int :=
  let best := coarsest tie m ((m.fine.log2 + 1) * 1234 / 4096 + 1)
  (best.1, (best.2 : Int) - oneExponent)

end Magnitude

end PointSelect
