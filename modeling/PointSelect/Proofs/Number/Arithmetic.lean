import PointSelect.Number.Arithmetic
import PointSelect.Proofs.Number.Rounding
import Mathlib.Tactic.NormNum

namespace PointSelect.Magnitude

theorem ofRatio_zero (den : Nat) : ofRatio 0 den = zero := by
  rcases Nat.eq_zero_or_pos den with rfl | hd
  · have hn : nearestUnits 0 0 = 0 := by simp [nearestUnits, roundHalfEven]
    exact Subtype.ext hn
  · exact ofRatio_underflow hd

theorem zero_mul (m : Magnitude) : zero.mul m = zero := by
  rw [mul, zero, Nat.zero_mul, ofRatio_zero]
  rfl

theorem zero_div (m : Magnitude) : zero.div m = zero := by
  rw [div, zero, Nat.zero_mul, ofRatio_zero]
  rfl

/-- A quotient does not depend on the unit in which both its terms are counted. -/
theorem ofRatio_mul_mul (num den : Nat) {c : Nat} (h : 0 < c) :
    ofRatio (num * c) (den * c) = ofRatio num den := by
  have hdiv : ∀ d, num * c / (d * c) = num / d := fun d => Nat.mul_div_mul_right num d h
  have hround : ∀ d, roundHalfEven (num * c) (d * c) = roundHalfEven num d := by
    intro d
    have hlt : 2 * (num % d * c) < d * c ↔ 2 * (num % d) < d := by
      rw [← Nat.mul_assoc]
      exact Nat.mul_lt_mul_right h
    have heq : 2 * (num % d * c) = d * c ↔ 2 * (num % d) = d := by
      rw [← Nat.mul_assoc]
      exact Nat.mul_left_inj (by omega)
    simp only [roundHalfEven, hdiv, Nat.mul_mod_mul_right, hlt, heq]
  have hn : nearestUnits (num * c) (den * c) = nearestUnits num den := by
    simp only [nearestUnits, hdiv]
    rw [Nat.mul_right_comm, hround]
  exact Subtype.ext hn

/-- A whole number that binary64 holds. -/
theorem ofNat_val {s : Nat} (h : Fits (s * oneUnits)) : (ofNat s).val = s * oneUnits := by
  have hn := nearestUnits_of_fits h Nat.one_pos
  rwa [Nat.mul_one] at hn

theorem infiniteUnits_eq : infiniteUnits = 2 ^ infiniteExponent := by
  unfold infiniteUnits
  generalize infiniteExponent = k
  exact Nat.pow_eq

/-- A power of two times a number of at most 53 bits, not too large. -/
theorem fits_two_pow_mul {e q : Nat} (hq : q ≤ 2 ^ 53) (he : e + 53 ≤ infiniteExponent) :
    Fits (2 ^ e * q) := by
  refine ⟨spacing_dvd_mul hq, ?_⟩
  calc
    2 ^ e * q ≤ 2 ^ e * 2 ^ 53 := Nat.mul_le_mul_left _ hq
    _ = 2 ^ (e + 53) := (Nat.pow_add 2 e 53).symm
    _ ≤ 2 ^ infiniteExponent := Nat.pow_le_pow_right (by decide) he
    _ = infiniteUnits := infiniteUnits_eq.symm

theorem fits_of_le {s : Nat} (h : s ≤ 2 ^ 53) : Fits (s * oneUnits) := by
  rw [Nat.mul_comm, oneUnits_eq]
  exact fits_two_pow_mul h (by unfold infiniteExponent; omega)

theorem tenPow_eq (k n : Nat) : 10 ^ k * 2 ^ n = 2 ^ (k + n) * 5 ^ k := by
  rw [Nat.pow_add, Nat.mul_right_comm, ← Nat.mul_pow]

/-- Up to its 22nd power ten is held exactly. -/
theorem tenPow_val {k : Nat} (h : k ≤ 22) : (tenPow k).val = 10 ^ k * oneUnits := by
  have hfits : Fits (10 ^ k * oneUnits) := by
    have hfive : 5 ^ k ≤ 2 ^ 53 := Nat.le_trans (Nat.pow_le_pow_right (by decide) h) (by norm_num)
    have he : k + oneExponent + 53 ≤ infiniteExponent := by
      unfold infiniteExponent
      omega
    rw [oneUnits_eq, tenPow_eq]
    exact fits_two_pow_mul hfive he
  have hn := nearestUnits_of_fits hfits Nat.one_pos
  rw [tenPow, Decimal.magnitudeOf_natCast, Nat.one_mul]
  rwa [Nat.mul_one] at hn

section

variable {s k : Nat} (hs : Fits (s * oneUnits)) (hk : k ≤ 22)
include hs hk

/-- The product of two numbers that are held exactly is rounded once. -/
theorem ofNat_mul_tenPow : (ofNat s).mul (tenPow k) = Decimal.magnitudeOf s k := by
  have hnum : s * oneUnits * (10 ^ k * oneUnits) = s * 10 ^ k * oneUnits * oneUnits := by
    generalize oneUnits = u
    ring
  have h := ofRatio_mul_mul (s * 10 ^ k * oneUnits) 1 oneUnits_pos
  rw [Nat.one_mul] at h
  rw [mul, ofNat_val hs, tenPow_val hk, hnum, h, Decimal.magnitudeOf_natCast, Nat.pow_eq]

theorem ofNat_div_tenPow (hpos : 0 < k) :
    (ofNat s).div (tenPow k) = Decimal.magnitudeOf s (-(k : Int)) := by
  rw [div, ofNat_val hs, tenPow_val hk, Decimal.magnitudeOf_neg_natCast s hpos, Nat.pow_eq]
  exact ofRatio_mul_mul _ _ oneUnits_pos

end

end PointSelect.Magnitude

namespace PointSelect.Decimal

theorem magnitudeOf_zero (e : Int) : magnitudeOf 0 e = .zero := by
  rw [magnitudeOf]
  split_ifs <;> simp only [Nat.zero_mul, Magnitude.ofRatio_zero]

end PointSelect.Decimal
