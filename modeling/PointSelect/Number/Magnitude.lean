namespace PointSelect

/-- The number one is 2 to this power in units of 2⁻¹⁰⁷⁴. -/
def oneExponent : Nat := 1074

/-- Infinity takes the place of 2¹⁰²⁴, which is 2 to this power in units. -/
def infiniteExponent : Nat := oneExponent + 1024

/-- The number one in units of 2⁻¹⁰⁷⁴. -/
def oneUnits : Nat := Nat.pow 2 oneExponent

/-- The magnitude of infinity in units. -/
def infiniteUnits : Nat := Nat.pow 2 infiniteExponent

/-- The distance of neighbouring magnitudes near `u` units: 53 significant bits are kept. -/
def spacing (u : Nat) : Nat := Nat.pow 2 (u.log2 - 52)

/-- A whole number of units that 53 significant bits hold, infinity at most. -/
def Fits (u : Nat) : Prop := spacing u ∣ u ∧ u ≤ infiniteUnits

instance (u : Nat) : Decidable (Fits u) := inferInstanceAs (Decidable (_ ∧ _))

/-- The size of a binary64 number in units of 2⁻¹⁰⁷⁴, the least positive one. -/
abbrev Magnitude := { u : Nat // Fits u }

namespace Magnitude

theorem spacing_pos (u : Nat) : 0 < spacing u := Nat.two_pow_pos _

theorem lt_spacing_mul (u : Nat) : u < spacing u * Nat.pow 2 53 := by
  rw [spacing, Nat.pow_eq, Nat.pow_eq, ← Nat.pow_add]
  exact Nat.lt_of_lt_of_le Nat.lt_log2_self (Nat.pow_le_pow_right (by decide) (by omega))

theorem fits_zero : Fits 0 := ⟨Nat.dvd_zero _, Nat.zero_le _⟩

theorem fits_two_pow {k : Nat} (h : k ≤ infiniteExponent) : Fits (Nat.pow 2 k) := by
  unfold Fits spacing infiniteUnits
  rw [Nat.pow_eq, Nat.pow_eq, Nat.pow_eq, Nat.log2_two_pow]
  exact ⟨Nat.pow_dvd_pow 2 (by omega), Nat.pow_le_pow_right (by decide) h⟩

theorem fits_infiniteUnits : Fits infiniteUnits := by
  unfold infiniteUnits
  exact fits_two_pow (Nat.le_refl _)

/-- A multiple of a power of two with at most 2⁵³ steps keeps its last bits. -/
theorem spacing_dvd_mul {e q : Nat} (h : q ≤ Nat.pow 2 53) :
    spacing (Nat.pow 2 e * q) ∣ Nat.pow 2 e * q := by
  rw [Nat.pow_eq] at h ⊢
  rcases Nat.lt_or_eq_of_le h with hlt | rfl
  · rcases Nat.eq_zero_or_pos q with rfl | hq
    · simp
    · refine Nat.dvd_trans ?_ (Nat.dvd_mul_right _ _)
      have hne : 2 ^ e * q ≠ 0 := Nat.ne_of_gt (Nat.mul_pos (Nat.two_pow_pos _) hq)
      have hb : 2 ^ e * q < 2 ^ (e + 53) := by
        rw [Nat.pow_add]
        exact Nat.mul_lt_mul_of_pos_left hlt (Nat.two_pow_pos _)
      have hl := (Nat.log2_lt hne).2 hb
      exact Nat.pow_dvd_pow 2 (by omega)
  · rw [← Nat.pow_add, spacing, Nat.pow_eq, Nat.log2_two_pow]
    exact Nat.pow_dvd_pow 2 (by omega)

theorem fits_min {u : Nat} (h : spacing u ∣ u) : Fits (min u infiniteUnits) := by
  rcases Nat.le_total u infiniteUnits with hu | hu
  · rw [Nat.min_eq_left hu]; exact ⟨h, hu⟩
  · rw [Nat.min_eq_right hu]; exact fits_infiniteUnits

/-- The whole number nearest to `num / den`; a half goes to the even neighbour. -/
def roundHalfEven (num den : Nat) : Nat :=
  let q := num / den
  let r := num % den
  if 2 * r < den ∨ (2 * r = den ∧ q % 2 = 0) then q else q + 1

theorem roundHalfEven_le (num den : Nat) : roundHalfEven num den ≤ num / den + 1 := by
  simp only [roundHalfEven]; split <;> omega

theorem roundHalfEven_mul (q : Nat) {den : Nat} (h : 0 < den) :
    roundHalfEven (q * den) den = q := by
  simp [roundHalfEven, Nat.mul_div_cancel q h, h]

/-- The units nearest to `num / den` units. -/
def nearestUnits (num den : Nat) : Nat :=
  let s := spacing (num / den)
  min (s * roundHalfEven num (den * s)) infiniteUnits

theorem fits_nearestUnits (num den : Nat) : Fits (nearestUnits num den) := by
  refine fits_min (spacing_dvd_mul ?_)
  refine Nat.le_trans (roundHalfEven_le _ _) ?_
  rw [← Nat.div_div_eq_div_mul]
  exact (Nat.div_lt_iff_lt_mul (spacing_pos _)).2 (Nat.mul_comm _ _ ▸ lt_spacing_mul _)

/-- Rounds a quotient of units to the nearest magnitude, as every operation on numbers does. -/
def ofRatio (num den : Nat) : Magnitude := ⟨nearestUnits num den, fits_nearestUnits num den⟩

theorem nearestUnits_of_fits {u den : Nat} (hu : Fits u) (hd : 0 < den) :
    nearestUnits (u * den) den = u := by
  obtain ⟨⟨q, hq⟩, hle⟩ := hu
  have hs : u * den = q * (den * spacing u) := by
    rw [Nat.mul_comm den, ← Nat.mul_assoc, Nat.mul_comm q, ← hq]
  simp only [nearestUnits, Nat.mul_div_cancel u hd]
  rw [hs, roundHalfEven_mul q (Nat.mul_pos hd (spacing_pos u)), ← hq]
  exact Nat.min_eq_left hle

/-- A magnitude is its own nearest one. -/
theorem ofRatio_val (m : Magnitude) {den : Nat} (h : 0 < den) : ofRatio (m.val * den) den = m :=
  Subtype.ext (nearestUnits_of_fits m.property h)

/-- Infinity. -/
def infinite : Magnitude := ⟨infiniteUnits, fits_infiniteUnits⟩

/-- Zero. -/
def zero : Magnitude := ⟨0, fits_zero⟩

/-- Whether the magnitude is below infinity. -/
def isFinite (m : Magnitude) : Bool := m.val < infiniteUnits

end Magnitude

end PointSelect
