import PointSelect.Proofs.Number.Error
import PointSelect.Proofs.Number.Rational

namespace PointSelect

/-- Rounding takes `m` for `x` rather than `v`: it is not farther away, and where both are equally
near it is an even multiple of their distance. -/
structure Prefers (x m v : ℚ) : Prop where
  nearest : |m - x| ≤ |v - x|
  even : |v - x| = |m - x| → v ≠ m → ∃ i : Int, m = 2 * i * (v - m)

namespace Prefers

variable {x m v : ℚ} (h : Prefers x m v)
include h

theorem neg : Prefers (-x) (-m) (-v) := by
  have hdist : ∀ a b : ℚ, |-a - -b| = |a - b| := by
    intro a b
    rw [neg_sub_neg, abs_sub_comm]
  refine ⟨?_, ?_⟩
  · rw [hdist, hdist]
    exact h.nearest
  · intro htie hne
    rw [hdist, hdist] at htie
    obtain ⟨i, hi⟩ := h.even htie fun heq => hne (congrArg _ heq)
    refine ⟨i, ?_⟩
    linarith

/-- The unit in which numbers are counted makes no difference. -/
theorem div {u : ℚ} (hu : 0 < u) : Prefers (x / u) (m / u) (v / u) := by
  refine ⟨?_, ?_⟩
  · rw [← sub_div, ← sub_div, abs_div, abs_div]
    exact div_le_div_of_nonneg_right h.nearest (abs_nonneg u)
  · intro htie hne
    rw [← sub_div, ← sub_div, abs_div, abs_div, div_left_inj' (abs_pos.mpr hu.ne').ne'] at htie
    obtain ⟨i, hi⟩ := h.even htie fun heq => hne (by rw [heq])
    refine ⟨i, ?_⟩
    rw [← sub_div, ← mul_div_assoc, ← hi]

end Prefers

theorem prefers_natCast {n m u : Nat} (hle : |(m : Int) - n| ≤ |(u : Int) - n|)
    (heven : |(u : Int) - n| = |(m : Int) - n| → u ≠ m → ∃ i : Int, (m : Int) = 2 * i * (u - m)) :
    Prefers n m u := by
  refine ⟨by exact_mod_cast hle, ?_⟩
  intro htie hne
  obtain ⟨i, hi⟩ := heven (by exact_mod_cast htie) (by exact_mod_cast hne)
  exact ⟨i, by exact_mod_cast hi⟩

namespace Magnitude

theorem spacing_of_lt {u : Nat} (h : u < 2 ^ 52) : spacing u = 1 := by
  have hlog : u.log2 ≤ 52 := by
    rcases Nat.eq_zero_or_pos u with rfl | hu
    · decide
    · have := (Nat.log2_lt (by omega)).mpr h
      omega
  rw [spacing_eq, Nat.sub_eq_zero_of_le hlog, Nat.pow_zero]

/-- No magnitude lies between two neighbouring multiples of the step that is kept near `num`. -/
theorem le_or_le_of_fits (num : Nat) {u : Nat} (hu : Fits u) :
    u ≤ spacing num * (num / spacing num) ∨ spacing num * (num / spacing num + 1) ≤ u := by
  by_contra hbetween
  rw [not_or, Nat.not_le, Nat.not_le] at hbetween
  have hdvd : spacing num ∣ u := by
    rcases Nat.lt_or_ge num (2 ^ 52) with hsmall | hlarge
    · rw [spacing_of_lt hsmall]
      exact Nat.one_dvd u
    · -- a full significand stands before the step, so `u` keeps no smaller steps
      have hs := spacing_mul hlarge
      have hq : 2 ^ 52 ≤ num / spacing num := by
        rw [Nat.le_div_iff_mul_le (spacing_pos num), Nat.mul_comm, hs]
        exact Nat.log2_self_le (by omega)
      have hle : spacing num * 2 ^ 52 ≤ u :=
        (Nat.mul_le_mul_left _ hq).trans (Nat.le_of_lt hbetween.1)
      have hpow := spacing_dvd_spacing hle (by rw [hs]; exact Nat.ne_of_gt (Nat.two_pow_pos _))
      have hsame : spacing (spacing num * 2 ^ 52) = spacing num := by
        rw [hs, spacing_eq, spacing_eq, Nat.log2_two_pow]
      rw [hsame] at hpow
      exact hpow.trans hu.1
  obtain ⟨k, rfl⟩ := hdvd
  have hlow := Nat.lt_of_mul_lt_mul_left hbetween.1
  have hhigh := Nat.lt_of_mul_lt_mul_left hbetween.2
  omega

/-- A whole number is rounded down from the lower half of a step and up from the upper one, and to
the even side from the middle. -/
theorem roundHalfEven_cases (num den : Nat) :
    (roundHalfEven num den = num / den ∧ 2 * (num % den) ≤ den ∧
      (2 * (num % den) = den → num / den % 2 = 0)) ∨
    (roundHalfEven num den = num / den + 1 ∧ den ≤ 2 * (num % den) ∧
      (2 * (num % den) = den → (num / den + 1) % 2 = 0)) := by
  unfold roundHalfEven
  simp only
  split_ifs with h
  · left
    omega
  · right
    omega

theorem nearestUnits_one {num : Nat} (h : num < infiniteUnits) :
    nearestUnits num 1 = spacing num * roundHalfEven num (spacing num) := by
  have hle : spacing num * roundHalfEven num (spacing num) ≤ infiniteUnits := by
    refine (Nat.mul_le_mul_left _ (roundHalfEven_le _ _)).trans ?_
    apply (le_or_le_of_fits num fits_infiniteUnits).resolve_left
    have hdiv := Nat.mul_div_le num (spacing num)
    omega
  simp only [nearestUnits, Nat.div_one, Nat.one_mul]
  exact Nat.min_eq_left hle

/-- Rounding takes the nearest magnitude rather than any other. -/
theorem prefers_nearestUnits {num u : Nat} (hnum : num < infiniteUnits) (hu : Fits u) :
    Prefers num (nearestUnits num 1 : Nat) u := by
  have hbetween := le_or_le_of_fits num hu
  have hmod := Nat.mod_lt num (spacing_pos num)
  have hdiv := Nat.div_add_mod num (spacing num)
  have hcases := roundHalfEven_cases num (spacing num)
  rw [nearestUnits_one hnum]
  generalize spacing num = s at *
  generalize num / s = q at *
  generalize num % s = r at *
  rw [Nat.mul_add, Nat.mul_one] at hbetween
  rcases hcases with ⟨hround, hhalf, heven⟩ | ⟨hround, hhalf, heven⟩
  · rw [hround]
    refine prefers_natCast (by simp only [Int.abs_eq_natAbs]; omega) ?_
    intro hdist hne
    rw [Int.abs_eq_natAbs, Int.abs_eq_natAbs] at hdist
    -- the other one is the next step, and both are half a step away
    have hother : u = s * q + s := by omega
    obtain ⟨k, hk⟩ : ∃ k, q = 2 * k := ⟨q / 2, by omega⟩
    refine ⟨k, ?_⟩
    rw [hother, hk]
    push_cast
    ring
  · rw [hround, Nat.mul_add, Nat.mul_one]
    refine prefers_natCast (by simp only [Int.abs_eq_natAbs]; omega) ?_
    intro hdist hne
    rw [Int.abs_eq_natAbs, Int.abs_eq_natAbs] at hdist
    have hother : u = s * q := by omega
    obtain ⟨k, hk⟩ : ∃ k, q + 1 = 2 * k := ⟨(q + 1) / 2, by omega⟩
    refine ⟨-k, ?_⟩
    have hq : (q : Int) = 2 * k - 1 := by omega
    rw [hother]
    push_cast
    rw [hq]
    ring

theorem val_ofRatio (num den : Nat) : (ofRatio num den).val = nearestUnits num den := rfl

/-- A whole number is rounded to a whole number. -/
theorem oneUnits_dvd_nearestUnits {n : Nat} (h : n * oneUnits < infiniteUnits) :
    oneUnits ∣ nearestUnits (n * oneUnits) 1 := by
  rcases Nat.lt_or_ge n (2 ^ 53) with hsmall | hlarge
  · have hexact := nearestUnits_of_fits (fits_of_le hsmall.le) Nat.one_pos
    rw [Nat.mul_one] at hexact
    rw [hexact]
    exact Nat.dvd_mul_left _ _
  · -- the steps this far up are whole numbers
    have hlog : oneExponent ≤ (n * oneUnits).log2 - 52 := by
      have hn : 2 ^ (53 + oneExponent) ≤ n * oneUnits := by
        rw [oneUnits_eq, Nat.pow_add]
        exact Nat.mul_le_mul_right _ hlarge
      have hne : n * oneUnits ≠ 0 := Nat.ne_of_gt ((Nat.two_pow_pos _).trans_le hn)
      have hle := (Nat.le_log2 hne).mpr hn
      omega
    have hdvd : oneUnits ∣ spacing (n * oneUnits) := by
      rw [oneUnits_eq, spacing_eq]
      exact Nat.pow_dvd_pow 2 (by rwa [← oneUnits_eq])
    rw [nearestUnits_one h]
    exact hdvd.trans (Nat.dvd_mul_right _ _)

end Magnitude

namespace Binary64

/-- A rational number that binary64 holds. -/
def IsNumber (v : ℚ) : Prop := ∃ x : Binary64, x.isFinite = true ∧ x.toRat = v

/-- An integer that is the number nearest to another one, with ties to even. -/
structure IsNearest (n m : Int) : Prop where
  number : IsNumber m
  prefers : ∀ v, IsNumber v → Prefers n m v

theorem abs_toRat (negative : Bool) (m : Magnitude) :
    |toRat (.signed negative m)| = (m.val : ℚ) / oneUnits := by
  have hnonneg : 0 ≤ (m.val : ℚ) / oneUnits :=
    div_nonneg (Nat.cast_nonneg _) natCast_oneUnits_pos.le
  cases negative with
  | false =>
    rw [toRat, if_neg Bool.false_ne_true, abs_of_nonneg hnonneg]
  | true =>
    rw [toRat, if_pos rfl, abs_neg, abs_of_nonneg hnonneg]

theorem isNumber_iff_abs {v : ℚ} :
    IsNumber v ↔ ∃ m : Magnitude, m.isFinite = true ∧ |v| = (m.val : ℚ) / oneUnits := by
  constructor
  · rintro ⟨x, hfinite, rfl⟩
    cases x with
    | nan => cases hfinite
    | signed negative m => exact ⟨m, hfinite, abs_toRat negative m⟩
  · rintro ⟨m, hfinite, hv⟩
    rcases abs_eq_abs.mp ((abs_abs v).symm.trans (congrArg abs hv)) with h | h
    · exact ⟨.signed false m, hfinite, by rw [h, toRat, if_neg Bool.false_ne_true]⟩
    · exact ⟨.signed true m, hfinite, by rw [h, toRat, if_pos rfl]⟩

theorem IsNumber.neg {v : ℚ} (h : IsNumber v) : IsNumber (-v) := by
  rw [isNumber_iff_abs] at h ⊢
  rwa [abs_neg]

theorem isNumber_natCast {u : Nat} (hu : Fits (u * oneUnits)) (h : u * oneUnits < infiniteUnits) :
    IsNumber u := by
  refine isNumber_iff_abs.mpr ⟨⟨u * oneUnits, hu⟩, Magnitude.isFinite_iff.mpr h, ?_⟩
  rw [Nat.abs_cast, Nat.cast_mul, mul_div_cancel_right₀ _ natCast_oneUnits_pos.ne']

theorem isNumber_two_pow_mul {e q : Nat} (he : e ≤ 64) (hq : q ≤ 2 ^ 53) :
    IsNumber (2 ^ e * q : Nat) := by
  have hexp : e + oneExponent + 53 < infiniteExponent := by
    unfold infiniteExponent
    omega
  have hunits : 2 ^ e * q * oneUnits = 2 ^ (e + oneExponent) * q := by
    rw [oneUnits_eq, Nat.pow_add, Nat.mul_right_comm]
  refine isNumber_natCast ?_ ?_
  · rw [hunits]
    exact Magnitude.fits_two_pow_mul hq hexp.le
  · rw [hunits, Magnitude.infiniteUnits_eq]
    calc
      2 ^ (e + oneExponent) * q ≤ 2 ^ (e + oneExponent) * 2 ^ 53 := Nat.mul_le_mul_left _ hq
      _ = 2 ^ (e + oneExponent + 53) := (Nat.pow_add 2 _ 53).symm
      _ < 2 ^ infiniteExponent := Nat.pow_lt_pow_right (by decide) hexp

theorem isNumber_zero : IsNumber 0 := by
  have h := isNumber_two_pow_mul (Nat.zero_le 64) (Nat.zero_le (2 ^ 53))
  rwa [Nat.mul_zero, Nat.cast_zero] at h

theorem exists_of_isNumber {n : Nat} (h : IsNumber n) : ∃ e q, q ≤ 2 ^ 53 ∧ n = 2 ^ e * q := by
  obtain ⟨⟨u, hdvd, hle⟩, hfinite, habs⟩ := isNumber_iff_abs.mp h
  have hu : n * oneUnits = u := by
    rw [Nat.abs_cast, eq_div_iff natCast_oneUnits_pos.ne'] at habs
    exact_mod_cast habs
  obtain ⟨q, hq⟩ := hdvd
  have hsize : q < 2 ^ 53 := by
    have hlt := Magnitude.lt_spacing_mul u
    rw [Nat.pow_eq] at hlt
    refine Nat.lt_of_mul_lt_mul_left (a := spacing u) ?_
    rwa [← hq]
  rw [spacing_eq] at hq
  generalize u.log2 - 52 = s at hq
  rw [← hu, oneUnits_eq] at hq
  clear hle hfinite habs hu
  generalize oneExponent = k at hq
  rcases Nat.le_total k s with hks | hsk
  · obtain ⟨e, rfl⟩ := Nat.exists_eq_add_of_le hks
    refine ⟨e, q, hsize.le, ?_⟩
    rw [Nat.pow_add, Nat.mul_comm n, Nat.mul_assoc] at hq
    exact Nat.eq_of_mul_eq_mul_left (Nat.two_pow_pos k) hq
  · -- the unit of the last place is below one, so `n` is small itself
    obtain ⟨e, rfl⟩ := Nat.exists_eq_add_of_le hsk
    rw [Nat.pow_add, Nat.mul_left_comm] at hq
    have hn := Nat.eq_of_mul_eq_mul_left (Nat.two_pow_pos s) hq
    refine ⟨0, n, ?_, by rw [Nat.pow_zero, Nat.one_mul]⟩
    exact (hn ▸ Nat.le_mul_of_pos_right n (Nat.two_pow_pos e)).trans hsize.le

theorem isNumber_natAbs_iff {n : Int} : IsNumber n.natAbs ↔ IsNumber n := by
  rw [isNumber_iff_abs, isNumber_iff_abs, Nat.abs_cast, Nat.cast_natAbs, Int.cast_abs]

/-- The integers of up to 64 bits that are numbers are those with 53 significant bits at most. -/
theorem isNumber_intCast_iff {n : Int} (hn : n.natAbs ≤ 2 ^ 64) :
    IsNumber n ↔ ∃ e q, q ≤ 2 ^ 53 ∧ n.natAbs = 2 ^ e * q := by
  rw [← isNumber_natAbs_iff]
  constructor
  · exact exists_of_isNumber
  · rintro ⟨e, q, hq, h⟩
    rcases Nat.eq_zero_or_pos q with rfl | hpos
    · rw [h, Nat.mul_zero, Nat.cast_zero]
      exact isNumber_zero
    · have hpow : 2 ^ e ≤ 2 ^ 64 := by
        calc
          2 ^ e ≤ 2 ^ e * q := Nat.le_mul_of_pos_right _ hpos
          _ ≤ 2 ^ 64 := h ▸ hn
      rw [h]
      exact isNumber_two_pow_mul ((Nat.pow_le_pow_iff_right (by decide)).mp hpow) hq

theorem isNumber_of_natAbs_le {n : Int} (h : n.natAbs ≤ 2 ^ 53) : IsNumber n := by
  rw [isNumber_intCast_iff (by omega)]
  exact ⟨0, n.natAbs, h, by rw [Nat.pow_zero, Nat.one_mul]⟩

theorem two_pow_dvd_of_isNumber {m : Int} (h : IsNumber m) {k : Nat}
    (hm : 2 ^ (k + 52) < m.natAbs) : 2 ^ k ∣ m.natAbs := by
  obtain ⟨e, q, hq, hmul⟩ := exists_of_isNumber (isNumber_natAbs_iff.mpr h)
  have hexp : k < e + 1 := by
    have hpow : 2 ^ (k + 52) < 2 ^ (e + 53) := by
      calc
        2 ^ (k + 52) < 2 ^ e * q := hmul ▸ hm
        _ ≤ 2 ^ e * 2 ^ 53 := Nat.mul_le_mul_left _ hq
        _ = 2 ^ (e + 53) := (Nat.pow_add 2 e 53).symm
    have := (Nat.pow_lt_pow_iff_right (by decide)).mp hpow
    omega
  rw [hmul]
  exact (Nat.pow_dvd_pow 2 (by omega)).trans (Nat.dvd_mul_right _ _)

namespace IsNearest

variable {n m : Int} (h : IsNearest n m)
include h

theorem neg : IsNearest (-n) (-m) := by
  refine ⟨?_, ?_⟩
  · rw [Int.cast_neg]
    exact h.number.neg
  · intro v hv
    have hflip := (h.prefers (-v) hv.neg).neg
    rwa [neg_neg, ← Int.cast_neg, ← Int.cast_neg] at hflip

theorem eq_iff : m = n ↔ IsNumber n := by
  constructor
  · rintro rfl
    exact h.number
  · intro hn
    have hle := (h.prefers n hn).nearest
    rw [sub_self, abs_zero] at hle
    exact_mod_cast sub_eq_zero.mp (abs_nonpos_iff.mp hle)

/-- Rounding does not lead beyond a number. -/
theorem le {b : Int} (hb : IsNumber b) (hn : n ≤ b) : m ≤ b := by
  have hle : |m - n| ≤ |b - n| := by exact_mod_cast (h.prefers b hb).nearest
  rw [abs_of_nonneg (sub_nonneg.mpr hn)] at hle
  have := le_abs_self (m - n)
  omega

theorem ge {b : Int} (hb : IsNumber b) (hn : b ≤ n) : b ≤ m := by
  have hle : |m - n| ≤ |b - n| := by exact_mod_cast (h.prefers b hb).nearest
  rw [abs_of_nonpos (sub_nonpos.mpr hn)] at hle
  have := neg_abs_le (m - n)
  omega

/-- Up to 2⁵³ nothing but a number itself is rounded to it: the integers next to it are numbers that
the others do not get past. -/
theorem eq_iff_of_natAbs_lt {k : Int} (hk : k.natAbs < 2 ^ 53) : m = k ↔ n = k := by
  rcases lt_trichotomy n k with hlt | rfl | hgt
  · have hbelow := h.le (isNumber_of_natAbs_le (n := k - 1) (by omega)) (by omega)
    omega
  · exact iff_of_true (h.eq_iff.mpr (isNumber_of_natAbs_le hk.le)) rfl
  · have habove := h.ge (isNumber_of_natAbs_le (n := k + 1) (by omega)) (by omega)
    omega

/-- Below the middle of the step that ends at 2⁶³ nothing is rounded up to it. -/
theorem lt_two_pow (hn : n < 2 ^ 63 - 512) : m < 2 ^ 63 := by
  have hb : IsNumber (2 ^ 63 - 1024 : Int) := by
    rw [isNumber_intCast_iff (by decide)]
    exact ⟨10, 2 ^ 53 - 1, by decide, by decide⟩
  rcases Int.le_total n (2 ^ 63 - 1024) with hbelow | habove
  · have := h.le hb hbelow
    omega
  · have hle : |m - n| ≤ |(2 ^ 63 - 1024) - n| := by exact_mod_cast (h.prefers _ hb).nearest
    rw [abs_of_nonpos (sub_nonpos.mpr habove)] at hle
    have := le_abs_self (m - n)
    omega

/-- From there on up to 2⁶³ everything is: the step starts at an odd multiple of its length, so its
middle goes up too. -/
theorem eq_two_pow (hn : 2 ^ 63 - 512 ≤ n) (hmax : n ≤ 2 ^ 63) : m = 2 ^ 63 := by
  have hb : IsNumber (2 ^ 63 : Int) := by
    rw [isNumber_intCast_iff (by decide)]
    exact ⟨63, 1, by decide, by decide⟩
  have hle : |m - n| ≤ |2 ^ 63 - n| := by exact_mod_cast (h.prefers _ hb).nearest
  have hm := h.le hb hmax
  rw [abs_of_nonneg (sub_nonneg.mpr hmax)] at hle
  have hlow := neg_abs_le (m - n)
  have hdvd : 2 ^ 10 ∣ m.natAbs := two_pow_dvd_of_isNumber h.number (by omega)
  by_contra hne
  -- what is left is the lower end of the step, as near as 2⁶³ is to the middle
  have hend : m = 2 ^ 63 - 1024 ∧ n = 2 ^ 63 - 512 := by omega
  obtain ⟨rfl, rfl⟩ := hend
  obtain ⟨i, hi⟩ := (h.prefers _ hb).even (by norm_num) (by norm_num)
  have heven : (2 ^ 63 - 1024 : Int) = 2 * i * (2 ^ 63 - (2 ^ 63 - 1024)) := by exact_mod_cast hi
  omega

end IsNearest

section

variable {n m : Nat} (hn : n * oneUnits < infiniteUnits)
  (hm : Magnitude.nearestUnits (n * oneUnits) 1 = m * oneUnits)
include hn hm

theorem prefers_abs {v : ℚ} (hv : IsNumber v) : Prefers n m |v| := by
  obtain ⟨u, -, habs⟩ := isNumber_iff_abs.mp hv
  have hone := natCast_oneUnits_pos
  have hunits := (Magnitude.prefers_nearestUnits hn u.property).div hone
  rwa [hm, Nat.cast_mul, Nat.cast_mul, mul_div_cancel_right₀ _ hone.ne',
    mul_div_cancel_right₀ _ hone.ne', ← habs] at hunits

theorem isNearest_natCast (hfinite : m * oneUnits < infiniteUnits) : IsNearest n m := by
  refine ⟨?_, ?_⟩
  · have hfits := Magnitude.fits_nearestUnits (n * oneUnits) 1
    rw [hm] at hfits
    rw [Int.cast_natCast]
    exact isNumber_natCast hfits hfinite
  · intro v hv
    rw [Int.cast_natCast, Int.cast_natCast]
    have habs := prefers_abs hn hm hv
    rcases le_or_gt 0 v with hpos | hneg
    · rwa [abs_of_nonneg hpos] at habs
    · -- a number below zero is farther away than zero is
      have hzero := (prefers_abs hn hm isNumber_zero).nearest
      rw [abs_zero, zero_sub, abs_neg, Nat.abs_cast] at hzero
      have hfar : (n : ℚ) < |v - n| := by
        rw [abs_sub_comm]
        exact lt_of_lt_of_le (by linarith) (le_abs_self _)
      exact ⟨hzero.trans hfar.le, fun htie => absurd htie (hzero.trans_lt hfar).ne'⟩

end

/-- The integers that are rounded to finite numbers here, the 64-bit ones among them. -/
theorem exists_ofRatio_natCast {n : Nat} (hn : n ≤ 2 ^ 64) :
    (Magnitude.ofRatio (n * oneUnits) 1).isFinite = true ∧
    ∃ m : Nat, (Magnitude.ofRatio (n * oneUnits) 1).val = m * oneUnits ∧ IsNearest n m := by
  have hquarter : n * oneUnits * 4 ≤ infiniteUnits := by
    have hexp : 66 + oneExponent ≤ infiniteExponent := by
      unfold infiniteExponent
      omega
    rw [Magnitude.infiniteUnits_eq, oneUnits_eq]
    generalize oneExponent = k, infiniteExponent = l at hexp ⊢
    calc
      n * 2 ^ k * 4 = n * 4 * 2 ^ k := Nat.mul_right_comm _ _ _
      _ ≤ 2 ^ 66 * 2 ^ k := Nat.mul_le_mul_right _ (by omega)
      _ = 2 ^ (66 + k) := (Nat.pow_add 2 66 k).symm
      _ ≤ 2 ^ l := Nat.pow_le_pow_right (by decide) hexp
  have hpos := (Nat.two_pow_pos infiniteExponent).trans_eq Magnitude.infiniteUnits_eq.symm
  have hlt : n * oneUnits < infiniteUnits := by
    generalize n * oneUnits = a at hquarter ⊢
    generalize infiniteUnits = b at hquarter hpos ⊢
    omega
  have hfinite := Magnitude.isFinite_ofRatio Nat.one_pos (by rwa [Nat.mul_one])
  obtain ⟨m, hm⟩ := Magnitude.oneUnits_dvd_nearestUnits hlt
  rw [Nat.mul_comm oneUnits m] at hm
  have hval := Magnitude.isFinite_iff.mp hfinite
  rw [Magnitude.val_ofRatio, hm] at hval
  refine ⟨hfinite, m, ?_, isNearest_natCast hlt hm hval⟩
  rw [Magnitude.val_ofRatio, hm]

/-- An integer of 64 bits is rounded to the nearest number, which is an integer too. -/
theorem ofInt_nearest {n : Int} (hn : n.natAbs ≤ 2 ^ 64) :
    (ofInt n).isFinite = true ∧ ∃ m : Int, (ofInt n).toRat = m ∧ IsNearest n m := by
  obtain ⟨hfinite, m, hm, hnear⟩ := exists_ofRatio_natCast hn
  have hvalue : ((m * oneUnits : Nat) : ℚ) / oneUnits = m := by
    rw [Nat.cast_mul, mul_div_cancel_right₀ _ natCast_oneUnits_pos.ne']
  refine ⟨hfinite, ?_⟩
  rw [ofInt, toRat, hm, hvalue]
  rcases lt_or_ge n 0 with hneg | hpos
  · refine ⟨-m, ?_, ?_⟩
    · rw [if_pos (decide_eq_true hneg), Int.cast_neg, Int.cast_natCast]
    · have hflip := hnear.neg
      rwa [Int.ofNat_natAbs_of_nonpos hneg.le, neg_neg] at hflip
  · refine ⟨m, ?_, ?_⟩
    · rw [if_neg (by simpa using hpos), Int.cast_natCast]
    · rwa [Int.natAbs_of_nonneg hpos] at hnear

/-- Rounding keeps an integer that is a number. -/
theorem toRat_ofInt {n : Int} (h : n.natAbs ≤ 2 ^ 53) :
    (ofInt n).isFinite = true ∧ (ofInt n).toRat = n := by
  obtain ⟨hfinite, m, hm, hnear⟩ := ofInt_nearest (n := n) (by omega)
  rw [hnear.eq_iff.mpr (isNumber_of_natAbs_le h)] at hm
  exact ⟨hfinite, hm⟩

theorem isNumber_min : IsNumber (-2 ^ 63 : Int) := by
  rw [isNumber_intCast_iff (by decide)]
  exact ⟨63, 1, by decide, by decide⟩

/-- From the middle of the last step on the 64-bit integers are rounded to the number 2⁶³. -/
theorem ofInt_eq_two_pow {n : Int} (hn : 2 ^ 63 - 512 ≤ n) (hmax : n ≤ 2 ^ 63) :
    ofInt n = ofInt (2 ^ 63) := by
  have hunits : ∀ a : Int, 2 ^ 63 - 512 ≤ a → a ≤ 2 ^ 63 →
      (Magnitude.ofRatio (a.natAbs * oneUnits) 1).val = 2 ^ 63 * oneUnits := by
    intro a ha hamax
    obtain ⟨-, m, hm, hnear⟩ := exists_ofRatio_natCast (n := a.natAbs) (by omega)
    have htop := hnear.eq_two_pow (by omega) (by omega)
    rw [hm, show m = 2 ^ 63 by omega]
  have hsize := Subtype.ext ((hunits n hn hmax).trans (hunits (2 ^ 63) (by decide) (by decide)).symm)
  have hneg : ¬n < 0 := by omega
  rw [ofInt, ofInt, hsize, decide_eq_false hneg]
  rfl

end Binary64

end PointSelect
