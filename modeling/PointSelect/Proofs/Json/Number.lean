import PointSelect.Json.Fields
import PointSelect.Proofs.Json.Numeral
import PointSelect.Proofs.Number.Arithmetic

namespace PointSelect.Json

namespace Numeral

/-- The number that all digits before the exponent form. -/
def digits (n : Numeral) : Nat := Decimal.ofDigits (n.whole ++ n.fraction.getD [])

/-- The exponent as a number. -/
def exponentValue (n : Numeral) : Int :=
  n.exponent.elim 0 fun x => if x.1 then -(Decimal.ofDigits x.2 : Int) else Decimal.ofDigits x.2

/-- The power of ten that the digits are meant with. -/
def power (n : Numeral) : Int := n.exponentValue - (n.fraction.getD []).length

/-- The power of ten of the digits that are collected. -/
def collectedPower (n : Numeral) : Int := n.significand.2 + n.exponentValue

theorem exponentValue_of_none {n : Numeral} (h : n.exponent = none) : n.exponentValue = 0 := by
  rw [exponentValue, h, Option.elim_none]

/-- The sign and the digits that are written for an exponent stand for it. -/
theorem exponentValue_of_some {n : Numeral} {x : Int}
    (h : n.exponent = some (decide (x < 0), Nat.toDigits 10 x.natAbs)) : n.exponentValue = x := by
  rw [exponentValue, h, Option.elim_some]
  simp only [Decimal.ofDigits_toDigits, decide_eq_true_eq]
  split_ifs <;> omega

theorem digits_step (c : Char) (cs : List Char) (n : Nat) :
    10 ^ (cs.length + 1) * n + Decimal.ofDigits (c :: cs) =
      10 ^ cs.length * (10 * n + (c.toNat - '0'.toNat)) + Decimal.ofDigits cs := by
  have hc : Decimal.ofDigits [c] = c.toNat - '0'.toNat := by simp [Decimal.ofDigits]
  have ha := Decimal.ofDigits_append [c] cs
  rw [List.singleton_append] at ha
  rw [ha, hc]
  ring

/-- Digits that form no number above the bound are all collected. -/
theorem collect_eq {bound n : Nat} {cs : List Char}
    (h : 10 ^ cs.length * n + Decimal.ofDigits cs ≤ bound) :
    collect bound n cs = (10 ^ cs.length * n + Decimal.ofDigits cs, []) := by
  induction cs generalizing n with
  | nil =>
    have hz : Decimal.ofDigits [] = 0 := rfl
    simp [collect, hz]
  | cons c cs ih =>
    rw [List.length_cons, digits_step] at h ⊢
    have hle : 10 * n + (c.toNat - '0'.toNat) ≤ bound := by
      refine Nat.le_trans ?_ h
      exact Nat.le_trans (Nat.le_mul_of_pos_left _ (Nat.pow_pos (by decide))) (Nat.le_add_right _ _)
    rw [collect, if_neg (by omega), ih h]

theorem collect_all {bound : Nat} {cs : List Char} (h : Decimal.ofDigits cs ≤ bound) :
    collect bound 0 cs = (Decimal.ofDigits cs, []) := by
  have hc := @collect_eq bound 0 cs (by simpa using h)
  simpa using hc

theorem significand_eq {n : Numeral} (h : n.digits ≤ maxSignificand) :
    n.significand = (n.digits, -((n.fraction.getD []).length : Int)) := by
  have hv : n.digits = 10 ^ (n.fraction.getD []).length * Decimal.ofDigits n.whole +
      Decimal.ofDigits (n.fraction.getD []) := Decimal.ofDigits_append _ _
  have hle : Decimal.ofDigits n.whole ≤ maxSignificand := by
    refine Nat.le_trans ?_ (hv ▸ h)
    exact Nat.le_trans (Nat.le_mul_of_pos_left _ (Nat.pow_pos (by decide))) (Nat.le_add_right _ _)
  rw [significand, collect_all hle]
  simp only
  rw [collect_eq (hv ▸ h), ← hv]
  simp

theorem collectedPower_eq {n : Numeral} (h : n.digits ≤ maxSignificand) :
    n.collectedPower = n.power := by
  rw [collectedPower, significand_eq h, power]
  exact Int.add_comm _ _

/-- The digits that are collected are scaled by their power of ten where a point or an exponent is
written. -/
theorem magnitude?_eq_scale? {n : Numeral}
    (hx : ∀ x ∈ n.exponent, Decimal.ofDigits x.2 ≤ maxExponent)
    (hp : n.collectedPower.natAbs ≤ 0x7FFFFFFF)
    (point : n.fraction.isSome = true ∨ n.exponent.isSome = true) :
    n.magnitude? = scale? (.ofNat n.significand.1) (n.collectedPower.natAbs / 308 + 2)
      n.collectedPower := by
  have hif : ∀ e : Int, ¬(n.fraction.isNone && n.exponent.isNone && decide (e = 0)) = true := by
    intro e
    rcases point with hs | hs <;> simp [Option.isNone_eq_false_iff.mpr hs]
  rw [magnitude?]
  cases he : n.exponent with
  | none =>
    have hpower : n.collectedPower = n.significand.2 := by
      rw [collectedPower, exponentValue, he, Option.elim_none, Int.add_zero]
    rw [he] at hif
    simp only [← hpower]
    rw [if_neg (hif _)]
  | some x =>
    obtain ⟨negative, ds⟩ := x
    have hcollect := collect_all (hx _ he)
    have hpower : clamp (if negative then n.significand.2 - Decimal.ofDigits ds
        else n.significand.2 + Decimal.ofDigits ds) = n.collectedPower := by
      have hv : n.collectedPower = if negative then n.significand.2 - Decimal.ofDigits ds
          else n.significand.2 + Decimal.ofDigits ds := by
        rw [collectedPower, exponentValue, he, Option.elim_some]
        dsimp only
        split_ifs <;> omega
      rw [← hv, clamp]
      omega
    rw [he] at hif
    simp only [hcollect, List.isEmpty_nil, if_true, hpower]
    rw [if_neg (hif _)]

/-- Digits and a power of ten that binary64 both holds exactly are rounded once. -/
theorem magnitude?_eq_some {n : Numeral} {m : Magnitude}
    (hm : Decimal.magnitudeOf n.digits n.power = m) (hfinite : m.isFinite = true)
    (hd : n.digits ≤ maxSignificand) (hx : ∀ x ∈ n.exponent, Decimal.ofDigits x.2 ≤ maxExponent)
    (hp : n.power.natAbs ≤ 22) (point : n.fraction.isSome = true ∨ n.exponent.isSome = true)
    (hfits : Fits (n.digits * oneUnits)) : n.magnitude? = some m := by
  have hc := collectedPower_eq hd
  rw [magnitude?_eq_scale? hx (by omega) point, hc, significand_eq hd, scale?, if_pos (by omega)]
  rcases lt_or_ge n.power 0 with hneg | hpos
  · have he : -(n.power.natAbs : Int) = n.power := by omega
    have hdiv := Magnitude.ofNat_div_tenPow hfits hp (by omega)
    rw [he, hm] at hdiv
    rw [if_neg (by omega), hdiv]
  · have he : (n.power.toNat : Int) = n.power := by omega
    have hmul := @Magnitude.ofNat_mul_tenPow n.digits n.power.toNat hfits (by omega)
    rw [he, hm] at hmul
    simp only [if_pos hpos, hmul, if_pos hfinite]

end Numeral

/-- A zero behind the point does not change a whole number. -/
theorem magnitudeOf_pointZero (d k : Nat) :
    Decimal.magnitudeOf (10 ^ (k + 1) * d) (-1) = Decimal.magnitudeOf d k := by
  have hnum : 10 ^ (k + 1) * d * oneUnits = d * 10 ^ k * oneUnits * 10 := by
    generalize oneUnits = u
    ring
  have h : Magnitude.ofRatio (d * 10 ^ k * oneUnits * 10) (1 * 10) =
      Magnitude.ofRatio (d * 10 ^ k * oneUnits) 1 := Magnitude.ofRatio_mul_mul _ _ (by decide)
  have hneg := Decimal.magnitudeOf_neg_natCast (10 ^ (k + 1) * d) Nat.one_pos
  rw [Nat.pow_eq, Nat.pow_one, hnum] at hneg
  rw [Decimal.magnitudeOf_natCast, Nat.pow_eq, ← h]
  exact hneg

section

variable {d : Nat} {e : Int} (negative : Bool)

/-- A whole number that is written without an exponent ends in a zero behind its point. -/
theorem decimalNumeral_of_whole (he : 0 ≤ e) (hp : (Nat.toDigits 10 d).length + e ≤ 16) :
    let n := decimalNumeral negative (Nat.toDigits 10 d) e
    n.digits = 10 ^ (e.toNat + 1) * d ∧ n.power = -1 ∧ n.fraction = some ['0'] ∧
      n.exponent = none := by
  intro n
  have hlen : 0 < (Nat.toDigits 10 d).length := Nat.length_toDigits_pos
  have hn : n = ⟨negative, Nat.toDigits 10 d ++ Layout.zeros e.toNat, some ['0'], none⟩ := by
    have hz : ((Nat.toDigits 10 d).length + e).toNat - (Nat.toDigits 10 d).length = e.toNat := by
      omega
    simp only [n, decimalNumeral]
    rw [if_neg (by omega), if_neg (by omega), if_neg (by omega), hz]
  have hz : Decimal.ofDigits ['0'] = 0 := by decide
  rw [hn]
  refine ⟨?_, by simp [Numeral.power, Numeral.exponentValue], rfl, rfl⟩
  rw [Numeral.digits, Option.getD_some, Decimal.ofDigits_append, Decimal.ofDigits_append,
    Decimal.ofDigits_toDigits, Decimal.ofDigits_zeros, hz]
  simp only [Layout.zeros, List.length_replicate, List.length_singleton]
  ring

/-- In every other layout the digits are those of the number, and so is the power of ten. -/
theorem decimalNumeral_of_other (h : ¬(0 ≤ e ∧ (Nat.toDigits 10 d).length + e ≤ 16)) :
    let n := decimalNumeral negative (Nat.toDigits 10 d) e
    n.digits = d ∧ n.power = e ∧ (n.fraction.isSome = true ∨ n.exponent.isSome = true) ∧
      ∀ x ∈ n.exponent, Decimal.ofDigits x.2 ≤ (Nat.toDigits 10 d).length + e.natAbs := by
  intro n
  have hne : Nat.toDigits 10 d ≠ [] := Nat.toDigits_ne_nil
  have hv : Decimal.ofDigits (Nat.toDigits 10 d) = d := Decimal.ofDigits_toDigits d
  have hn : n = decimalNumeral negative (Nat.toDigits 10 d) e := rfl
  generalize Nat.toDigits 10 d = ds at h hne hv hn
  have hlen : 0 < ds.length := List.length_pos_iff.mpr hne
  rw [hn]
  unfold decimalNumeral
  simp only
  split_ifs with hsci hone hsmall hmid
  · refine ⟨?_, ?_, by simp, ?_⟩
    · simp [Numeral.digits, List.take_of_length_le (Nat.le_of_eq hone), hv]
    · rw [Numeral.power, Numeral.exponentValue_of_some rfl]
      simp only [Option.getD_none, List.length_nil]
      omega
    · intro x hx
      obtain rfl : _ = x := Option.some.inj hx
      simp only [Decimal.ofDigits_toDigits]
      omega
  · refine ⟨?_, ?_, by simp, ?_⟩
    · simp only [Numeral.digits, Option.getD_some, List.take_append_drop, hv]
    · rw [Numeral.power, Numeral.exponentValue_of_some rfl]
      simp only [Option.getD_some, List.length_drop]
      omega
    · intro x hx
      obtain rfl : _ = x := Option.some.inj hx
      simp only [Decimal.ofDigits_toDigits]
      omega
  · refine ⟨?_, ?_, by simp, by simp⟩
    · simp only [Numeral.digits, Option.getD_some]
      rw [Decimal.ofDigits_append, Decimal.ofDigits_append, Decimal.ofDigits_zeros, hv]
      simp [Decimal.ofDigits]
    · rw [Numeral.power, Numeral.exponentValue_of_none rfl]
      simp only [Option.getD_some, Layout.zeros, List.length_append, List.length_replicate]
      omega
  · refine ⟨?_, ?_, by simp, by simp⟩
    · simp only [Numeral.digits, Option.getD_some, List.take_append_drop, hv]
    · rw [Numeral.power, Numeral.exponentValue_of_none rfl]
      simp only [Option.getD_some, List.length_drop]
      omega
  · omega

/-- A decimal number is what its numeral stands for. -/
theorem magnitudeOf_decimalNumeral :
    let n := decimalNumeral negative (Nat.toDigits 10 d) e
    Decimal.magnitudeOf n.digits n.power = Decimal.magnitudeOf d e := by
  intro n
  by_cases h : 0 ≤ e ∧ (Nat.toDigits 10 d).length + e ≤ 16
  · obtain ⟨hdigits, hpower, -, -⟩ := decimalNumeral_of_whole negative h.1 h.2
    have he : (e.toNat : Int) = e := Int.toNat_of_nonneg h.1
    rw [hdigits, hpower, magnitudeOf_pointZero, he]
  · obtain ⟨hdigits, hpower, -, -⟩ := decimalNumeral_of_other negative h
    rw [hdigits, hpower]

end

end PointSelect.Json
