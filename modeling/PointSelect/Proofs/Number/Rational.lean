import PointSelect.Proofs.Number.Rounding
import Mathlib.Data.Rat.Floor

namespace PointSelect

/-- A rational number without its fraction: cut toward zero. -/
def wholePart (q : ℚ) : Int := if 0 ≤ q then ⌊q⌋ else ⌈q⌉

theorem wholePart_intCast (m : Int) : wholePart m = m := by
  unfold wholePart
  split_ifs
  · exact Int.floor_intCast m
  · exact Int.ceil_intCast m

namespace Binary64

/-- The rational number that a finite number is. -/
def toRat : Binary64 → ℚ
  | nan => 0
  | signed negative m => if negative then -((m.val : ℚ) / oneUnits) else m.val / oneUnits

theorem natCast_oneUnits_pos : (0 : ℚ) < (oneUnits : ℚ) := Nat.cast_pos.mpr oneUnits_pos

theorem floor_units (m : Magnitude) :
    ⌊(m.val : ℚ) / oneUnits⌋ = ((m.val / oneUnits : Nat) : Int) := by
  have h := Rat.floor_intCast_div_natCast (m.val : Int) oneUnits
  rw [Int.cast_natCast] at h
  rw [h, Int.natCast_ediv]

/-- A number is cut as the rational number that it is. -/
theorem truncate_eq_wholePart {x : Binary64} (h : x.isFinite = true) :
    x.truncate = wholePart x.toRat := by
  cases x with
  | nan => cases h
  | signed negative m =>
    have hnonneg : 0 ≤ (m.val : ℚ) / oneUnits :=
      div_nonneg (Nat.cast_nonneg _) natCast_oneUnits_pos.le
    have hfloor := floor_units m
    rw [truncate_signed, toRat, wholePart]
    cases negative with
    | false =>
      simp only [Bool.false_eq_true, if_false]
      rw [if_pos hnonneg, hfloor]
    | true =>
      simp only [if_true]
      generalize (m.val : ℚ) / oneUnits = q at hnonneg hfloor ⊢
      split_ifs with hz
      · have hq : q = 0 := le_antisymm (neg_nonneg.mp hz) hnonneg
        rw [hq, Int.floor_zero] at hfloor
        rw [← hfloor, hq, Int.neg_zero, neg_zero, Int.floor_zero]
      · rw [Int.ceil_neg, hfloor]

/-- A number has no fraction where it is an integer. -/
theorem isWhole_iff {x : Binary64} (h : x.isFinite = true) :
    x.isWhole = true ↔ ∃ n : Int, x.toRat = n := by
  cases x with
  | nan => cases h
  | signed negative m =>
    have hdvd : (signed negative m).isWhole = true ↔ oneUnits ∣ m.val := by
      rw [isWhole, decide_eq_true_iff, Nat.dvd_iff_mod_eq_zero]
    have hne : (oneUnits : ℚ) ≠ 0 := natCast_oneUnits_pos.ne'
    have habs : (∃ n : Int, (m.val : ℚ) / oneUnits = n) ↔ oneUnits ∣ m.val := by
      constructor
      · rintro ⟨n, hn⟩
        rw [div_eq_iff hne] at hn
        have hz : (m.val : Int) = n * oneUnits := by exact_mod_cast hn
        exact Int.natCast_dvd_natCast.mp ⟨n, by rw [hz, Int.mul_comm]⟩
      · rintro ⟨n, hn⟩
        refine ⟨n, ?_⟩
        rw [hn, Nat.cast_mul, mul_div_cancel_left₀ _ hne, Int.cast_natCast]
    rw [hdvd, ← habs, toRat]
    cases negative with
    | false => simp only [Bool.false_eq_true, if_false]
    | true =>
      simp only [if_true]
      constructor
      · rintro ⟨n, hn⟩
        exact ⟨-n, by rw [hn, Int.cast_neg]⟩
      · rintro ⟨n, hn⟩
        exact ⟨-n, by rw [Int.cast_neg, ← hn, neg_neg]⟩

end Binary64

end PointSelect
