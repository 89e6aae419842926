import PointSelect.Number.Shortest
import Mathlib.Tactic.Ring

namespace PointSelect

theorem oneUnits_eq : oneUnits = 2 ^ oneExponent := by
  unfold oneUnits
  generalize oneExponent = k
  exact Nat.pow_eq

theorem oneUnits_pos : 0 < oneUnits := by
  rw [oneUnits_eq]
  exact Nat.two_pow_pos oneExponent

theorem spacing_eq (u : Nat) : spacing u = 2 ^ (u.log2 - 52) := Nat.pow_eq

namespace Magnitude

theorem isFinite_iff {m : Magnitude} : m.isFinite = true ↔ m.val < infiniteUnits := by
  rw [isFinite]
  exact decide_eq_true_iff

/-- Below half of the least step everything rounds to zero. -/
theorem ofRatio_underflow {num den : Nat} (h : 2 * num < den) : ofRatio num den = zero := by
  have hq : num / den = 0 := Nat.div_eq_of_lt (by omega)
  have hr : num % den = num := Nat.mod_eq_of_lt (by omega)
  have hs : spacing 0 = 1 := by rw [spacing, Nat.log2_zero]
  have hround : roundHalfEven num (den * 1) = 0 := by
    rw [Nat.mul_one, roundHalfEven, hq, hr]
    exact if_pos (.inl h)
  have hn : nearestUnits num den = 0 := by
    simp only [nearestUnits, hq, hs, hround, Nat.mul_zero, Nat.zero_min]
  exact Subtype.ext hn

theorem spacing_dvd_spacing {u v : Nat} (h : u ≤ v) (hu : u ≠ 0) : spacing u ∣ spacing v := by
  have hl : u.log2 ≤ v.log2 := (Nat.le_log2 (by omega)).mpr ((Nat.log2_self_le hu).trans h)
  rw [spacing_eq, spacing_eq]
  exact Nat.pow_dvd_pow 2 (by omega)

/-- The whole part of a magnitude is a magnitude: cutting the fraction off sets low bits to zero. -/
theorem fits_whole {u : Nat} (h : Fits u) : Fits (u / oneUnits * oneUnits) := by
  have hle : u / oneUnits * oneUnits ≤ u := Nat.div_mul_le_self _ _
  refine ⟨?_, hle.trans h.2⟩
  rcases Nat.eq_zero_or_pos (u / oneUnits * oneUnits) with hz | hpos
  · rw [hz]
    exact Nat.dvd_zero _
  · have hs := spacing_dvd_spacing hle (by omega)
    rcases Nat.le_total oneExponent (u.log2 - 52) with hbig | hsmall
    · -- the steps near `u` are whole numbers, so there is nothing to cut
      have hd : oneUnits ∣ spacing u := by
        rw [oneUnits_eq, spacing_eq]
        exact Nat.pow_dvd_pow 2 hbig
      rw [Nat.div_mul_cancel (hd.trans h.1)]
      exact h.1
    · have hd : spacing u ∣ oneUnits := by
        rw [oneUnits_eq, spacing_eq]
        exact Nat.pow_dvd_pow 2 hsmall
      exact hs.trans (hd.trans (Nat.dvd_mul_left _ _))

/-- A magnitude with a fraction is small: from 2⁵² on the steps between magnitudes are whole. -/
theorem div_oneUnits_lt_of_not_dvd {u : Nat} (h : Fits u) (hfraction : ¬oneUnits ∣ u) :
    u / oneUnits < 2 ^ 52 := by
  by_contra hlarge
  have hle : 2 ^ (52 + oneExponent) ≤ u := by
    rw [Nat.pow_add, ← oneUnits_eq]
    exact (Nat.le_div_iff_mul_le oneUnits_pos).mp (Nat.le_of_not_lt hlarge)
  have hne : u ≠ 0 := Nat.pos_iff_ne_zero.mp (Nat.lt_of_lt_of_le (Nat.two_pow_pos _) hle)
  have hlog : 52 + oneExponent ≤ u.log2 := (Nat.le_log2 hne).mpr hle
  have hd : oneUnits ∣ spacing u := by
    rw [oneUnits_eq, spacing_eq]
    exact Nat.pow_dvd_pow 2 (by omega)
  exact hfraction (hd.trans h.1)

theorem ofRatio_whole (m : Magnitude) :
    (ofRatio (m.val / oneUnits * oneUnits) 1).val = m.val / oneUnits * oneUnits := by
  have h := nearestUnits_of_fits (fits_whole m.property) Nat.one_pos
  rw [Nat.mul_one] at h
  exact h

end Magnitude

namespace Decimal

theorem magnitudeOf_natCast (d n : Nat) :
    magnitudeOf d n = .ofRatio (d * Nat.pow 10 n * oneUnits) 1 := by
  rw [magnitudeOf, if_pos (Int.natCast_nonneg n), Int.toNat_natCast]

theorem magnitudeOf_neg_natCast (d : Nat) {n : Nat} (h : 0 < n) :
    magnitudeOf d (-(n : Int)) = .ofRatio (d * oneUnits) (Nat.pow 10 n) := by
  have hn : ¬0 ≤ -(n : Int) := by omega
  rw [magnitudeOf, if_neg hn, Int.neg_neg, Int.toNat_natCast]

theorem magnitudeOf_underflow {d n : Nat} (h : 400 + d.log2 ≤ n) :
    magnitudeOf d (-(n : Int)) = .zero := by
  rw [magnitudeOf_neg_natCast d (by omega)]
  apply Magnitude.ofRatio_underflow
  have hd : d < 2 ^ (d.log2 + 1) := Nat.lt_log2_self
  have hk : d.log2 + 2 + oneExponent ≤ 3 * (400 + d.log2) := by
    have he : oneExponent ≤ 1100 := by decide
    omega
  calc
    2 * (d * oneUnits) < 2 * (2 ^ (d.log2 + 1) * oneUnits) :=
      Nat.mul_lt_mul_of_pos_left (Nat.mul_lt_mul_of_pos_right hd oneUnits_pos) (by decide)
    _ = 2 ^ (d.log2 + 2 + oneExponent) := by
      rw [oneUnits_eq]
      ring
    _ ≤ 2 ^ (3 * (400 + d.log2)) := Nat.pow_le_pow_right (by decide) hk
    _ = (2 ^ 3) ^ (400 + d.log2) := Nat.pow_mul 2 3 _
    _ ≤ 10 ^ (400 + d.log2) := Nat.pow_le_pow_left (by decide) _
    _ ≤ 10 ^ n := Nat.pow_le_pow_right (by decide) h

/-- Keeping a negative exponent within its bound changes no number: below the bound there is only
zero. -/
theorem magnitudeOf_boundedExponent (d : Nat) {e : Int} (h : e ≤ 0) :
    magnitudeOf d (boundedExponent d e) = magnitudeOf d e := by
  obtain ⟨n, rfl⟩ : ∃ n : Nat, e = -(n : Int) := ⟨e.natAbs, by omega⟩
  have hm : min 400 (-(n : Int)) = -(n : Int) := by omega
  rcases Nat.le_total n (400 + d.log2) with hin | hout
  · have hb : max (-((400 + d.log2 : Nat) : Int)) (-(n : Int)) = -(n : Int) := by omega
    rw [boundedExponent, hm, hb]
  · have hb : max (-((400 + d.log2 : Nat) : Int)) (-(n : Int)) = -((400 + d.log2 : Nat) : Int) := by
      omega
    rw [boundedExponent, hm, hb, magnitudeOf_underflow (Nat.le_refl _), magnitudeOf_underflow hout]

end Decimal

namespace Magnitude

theorem readsBack_iff {m : Magnitude} {j d : Nat} :
    m.readsBack j d = true ↔ Decimal.magnitudeOf d ((j : Int) - oneExponent) = m := by
  rw [readsBack]
  exact decide_eq_true_iff

theorem onGrid?_readsBack {tie : Tie} {m : Magnitude} {j d : Nat}
    (h : onGrid? tie m j = some d) : m.readsBack j d = true := by
  unfold onGrid? at h
  generalize m.fine / Nat.pow 10 j = low at h
  generalize m.fine % Nat.pow 10 j = r at h
  generalize Nat.pow 10 j = step at h
  cases hl : m.readsBack j low with
  | false =>
    cases hu : m.readsBack j (low + 1) with
    | false => simp [hl, hu] at h
    | true =>
      have hd : low + 1 = d := by simpa [hl, hu] using h
      subst hd
      exact hu
  | true =>
    cases hu : m.readsBack j (low + 1) with
    | false =>
      have hd : low = d := by simpa [hl, hu] using h
      subst hd
      exact hl
    | true =>
      -- both neighbours read back, so whichever is nearer does
      have hd : low = d ∨ low + 1 = d := by
        simp only [hl, hu] at h
        cases tie <;> grind
      rcases hd with rfl | rfl
      · exact hl
      · exact hu

/-- On the finest grid a magnitude is written exactly. -/
theorem readsBack_fine (m : Magnitude) : m.readsBack 0 m.fine = true := by
  have he : ((0 : Nat) : Int) - oneExponent = -(oneExponent : Int) := by omega
  have hp : m.fine * oneUnits = m.val * Nat.pow 10 oneExponent := by
    rw [fine, oneUnits_eq]
    generalize oneExponent = k
    rw [Nat.pow_eq, Nat.pow_eq, Nat.mul_assoc, ← Nat.mul_pow]
  have hpos : 0 < oneExponent := by decide
  rw [readsBack_iff, he, Decimal.magnitudeOf_neg_natCast m.fine hpos, hp]
  generalize oneExponent = k
  exact ofRatio_val m (Nat.pow_pos (by decide))

theorem coarsest_readsBack (tie : Tie) (m : Magnitude) (j : Nat) :
    m.readsBack (coarsest tie m j).2 (coarsest tie m j).1 = true := by
  induction j with
  | zero =>
    rw [coarsest]
    exact readsBack_fine m
  | succ j ih =>
    rw [coarsest]
    cases h : onGrid? tie m (j + 1) with
    | none => exact ih
    | some d => exact onGrid?_readsBack h

/-- The digits that are written for a magnitude stand for that magnitude. -/
theorem magnitudeOf_shortest (tie : Tie) (m : Magnitude) :
    Decimal.magnitudeOf (m.shortest tie).1 (m.shortest tie).2 = m := by
  rw [shortest]
  generalize (m.fine.log2 + 1) * 1234 / 4096 + 1 = j
  have h := coarsest_readsBack tie m j
  generalize coarsest tie m j = p at h
  obtain ⟨d, k⟩ := p
  exact readsBack_iff.mp h

end Magnitude

namespace Binary64

theorem truncate_signed (negative : Bool) (m : Magnitude) :
    truncate (.signed negative m) =
      if negative then -((m.val / oneUnits : Nat) : Int) else (m.val / oneUnits : Nat) := by
  rw [truncate, Int.natCast_ediv]

theorem natAbs_truncate (negative : Bool) (m : Magnitude) :
    (truncate (.signed negative m)).natAbs = m.val / oneUnits := by
  rw [truncate_signed]
  cases negative with
  | false => exact Int.natAbs_natCast _
  | true => exact (Int.natAbs_neg _).trans (Int.natAbs_natCast _)

/-- The whole part of a finite number is a number itself, so it survives as an integer. -/
theorem truncate_ofInt_truncate {x : Binary64} (h : x.isFinite = true) :
    (ofInt x.truncate).isFinite = true ∧ (ofInt x.truncate).isWhole = true ∧
      (ofInt x.truncate).truncate = x.truncate := by
  cases x with
  | nan => cases h
  | signed negative m =>
    have hfin := Magnitude.isFinite_iff.mp h
    have hval := Magnitude.ofRatio_whole m
    have hle : m.val / oneUnits * oneUnits ≤ m.val := Nat.div_mul_le_self _ _
    have hdiv : m.val / oneUnits * oneUnits / oneUnits = m.val / oneUnits :=
      Nat.mul_div_cancel _ oneUnits_pos
    rw [ofInt, natAbs_truncate]
    refine ⟨?_, ?_, ?_⟩
    · apply Magnitude.isFinite_iff.mpr
      rw [hval]
      exact Nat.lt_of_le_of_lt hle hfin
    · rw [isWhole, hval, Nat.mul_mod_left]
      rfl
    · rw [truncate_signed, hval, hdiv, truncate_signed]
      generalize m.val / oneUnits = n
      -- a whole part of zero loses its sign, which the integer zero has not either
      cases negative with
      | false => simp
      | true =>
        rcases Nat.eq_zero_or_pos n with rfl | hn
        · rfl
        · simp [hn]

end Binary64

end PointSelect
