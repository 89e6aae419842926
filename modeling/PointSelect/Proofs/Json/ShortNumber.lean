import PointSelect.Proofs.Json.Reread

namespace PointSelect.Json

/-- Zero, and numbers of at most 15 digits whose point is at most 22 places away. Those that end in
a zero before a point at the 16th place are left out: they are written with one more zero. -/
inductive IsShort (m : Magnitude) : Prop where
  | zero (h : m = .zero)
  | digits (few : (m.shortest .even).1 < 10 ^ 15) (near : (m.shortest .even).2.natAbs ≤ 22)
    (place : (Nat.toDigits 10 (m.shortest .even).1).length + (m.shortest .even).2 ≠ 16)

theorem isFinite_zero : Magnitude.zero.isFinite = true := by
  rw [Magnitude.isFinite_iff, Magnitude.infiniteUnits_eq]
  exact Nat.two_pow_pos _

theorem magnitude?_numeralOf_zero (negative : Bool) :
    (numeralOf negative .zero).magnitude? = some .zero := by
  have hn : numeralOf negative .zero = ⟨negative, ['0'], some ['0'], none⟩ := if_pos rfl
  have hd : (⟨negative, ['0'], some ['0'], none⟩ : Numeral).digits = 0 := rfl
  have hp : (⟨negative, ['0'], some ['0'], none⟩ : Numeral).power = -1 := rfl
  rw [hn]
  refine Numeral.magnitude?_eq_some ?_ isFinite_zero (Nat.zero_le _) (by simp) ?_ (.inl rfl) ?_
  · rw [hd]
    exact Decimal.magnitudeOf_zero _
  · rw [hp]
    decide
  · rw [hd, Nat.zero_mul]
    exact Magnitude.fits_zero

section

variable {m : Magnitude} (hfinite : m.isFinite = true) (negative : Bool) {d : Nat} {e : Int}
  (hm : Decimal.magnitudeOf d e = m)
include hfinite hm

theorem magnitude?_of_whole (he : 0 ≤ e) (hp : (Nat.toDigits 10 d).length + e ≤ 15) :
    (decimalNumeral negative (Nat.toDigits 10 d) e).magnitude? = some m := by
  obtain ⟨k, rfl⟩ : ∃ k : Nat, e = k := ⟨e.toNat, by omega⟩
  obtain ⟨hdigits, hpower, hfraction, hexponent⟩ :=
    decimalNumeral_of_whole negative he (Int.le_trans hp (by decide))
  rw [Int.toNat_natCast] at hdigits
  have hlen : 0 < (Nat.toDigits 10 d).length := Nat.length_toDigits_pos
  have hd : d < 10 ^ (Nat.toDigits 10 d).length :=
    (Nat.length_toDigits_le_iff (by decide) hlen).mp (Nat.le_refl _)
  have hsize : 10 ^ k * d < 10 ^ 15 := by
    calc
      10 ^ k * d < 10 ^ k * 10 ^ (Nat.toDigits 10 d).length :=
        Nat.mul_lt_mul_of_pos_left hd (Nat.pow_pos (by decide))
      _ = 10 ^ (k + (Nat.toDigits 10 d).length) := (Nat.pow_add 10 _ _).symm
      _ ≤ 10 ^ 15 := Nat.pow_le_pow_right (by decide) (by omega)
  -- one factor of two goes to the unit, so that what is left has 53 bits
  have htwice : 10 ^ (k + 1) * d * oneUnits = 2 ^ (1 + oneExponent) * (5 * (10 ^ k * d)) := by
    rw [oneUnits_eq]
    generalize oneExponent = n
    ring
  have hv := (magnitudeOf_decimalNumeral negative).trans hm
  refine Numeral.magnitude?_eq_some hv hfinite ?_ (by simp [hexponent]) (by rw [hpower]; decide)
    (by simp [hfraction]) ?_
  · rw [hdigits, Nat.pow_succ, Nat.mul_right_comm, Numeral.maxSignificand]
    omega
  · rw [hdigits, htwice]
    exact Magnitude.fits_two_pow_mul (by omega) (by unfold infiniteExponent; omega)

theorem magnitude?_of_other (hd : d < 10 ^ 15) (he : e.natAbs ≤ 22)
    (h : ¬(0 ≤ e ∧ (Nat.toDigits 10 d).length + e ≤ 16)) :
    (decimalNumeral negative (Nat.toDigits 10 d) e).magnitude? = some m := by
  obtain ⟨hdigits, hpower, hpoint, hexponent⟩ := decimalNumeral_of_other negative h
  have hlen : (Nat.toDigits 10 d).length ≤ 15 :=
    (Nat.length_toDigits_le_iff (by decide) (by decide)).mpr hd
  have hv := (magnitudeOf_decimalNumeral negative).trans hm
  refine Numeral.magnitude?_eq_some hv hfinite ?_ ?_ ?_ hpoint ?_
  · rw [hdigits, Numeral.maxSignificand]
    omega
  · intro x hx
    have hle := hexponent x hx
    rw [Numeral.maxExponent]
    omega
  · rw [hpower]
    exact he
  · rw [hdigits]
    exact Magnitude.fits_of_le (by omega)

end

theorem magnitude?_numeralOf {m : Magnitude} (hfinite : m.isFinite = true) (h : IsShort m)
    (negative : Bool) : (numeralOf negative m).magnitude? = some m := by
  cases h with
  | zero h =>
    rw [h]
    exact magnitude?_numeralOf_zero negative
  | digits few near place =>
    by_cases hz : m.val = 0
    · obtain rfl : m = .zero := Subtype.ext hz
      exact magnitude?_numeralOf_zero negative
    · have hm := m.magnitudeOf_shortest .even
      rw [numeralOf, if_neg hz]
      generalize (m.shortest .even).1 = d, (m.shortest .even).2 = e at few near place hm
      by_cases hwhole : 0 ≤ e ∧ (Nat.toDigits 10 d).length + e ≤ 16
      · exact magnitude?_of_whole hfinite negative hm hwhole.1 (by omega)
      · exact magnitude?_of_other hfinite negative hm few near hwhole

/-- A finite number that is short on either side of zero. -/
def IsShortNumber (x : Binary64) : Prop :=
  ∃ negative m, x = .signed negative m ∧ m.isFinite = true ∧ IsShort m

/-- A short number is read as itself. -/
theorem reread?_of_isShortNumber {x : Binary64} (h : IsShortNumber x) : reread? x = some x := by
  obtain ⟨negative, m, rfl, hfinite, hshort⟩ := h
  rw [← toBinary64?_numberValue, numberValue, if_pos hfinite, Value.toBinary64?,
    Numeral.toBinary64?, magnitude?_numeralOf hfinite hshort, negative_numeralOf]
  rfl

end PointSelect.Json
