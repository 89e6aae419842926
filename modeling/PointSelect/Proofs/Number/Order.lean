import PointSelect.Number.Integer
import PointSelect.Proofs.Number.Nearest

namespace PointSelect.Binary64

section

variable {x y z : Binary64} {a b : Int}

theorem le_iff_of_key (hx : x.key = some a) (hy : y.key = some b) : x.le y = true ↔ a ≤ b := by
  rw [le, compareKeys, hx, hy]
  exact decide_eq_true_iff

theorem lt_iff_of_key (hx : x.key = some a) (hy : y.key = some b) : x.lt y = true ↔ a < b := by
  rw [lt, compareKeys, hx, hy]
  exact decide_eq_true_iff

/-- Everything but NaN has a place in the order. -/
theorem exists_key_iff : (∃ a, x.key = some a) ↔ x ≠ .nan := by
  cases x with
  | nan => simp [key]
  | signed negative m => cases negative <;> simp [key]

/-- A comparison that holds is one of two places. -/
theorem exists_keys_of_compareKeys {r : Int → Int → Bool} (h : compareKeys r x y = true) :
    ∃ a b, x.key = some a ∧ y.key = some b := by
  unfold compareKeys at h
  split at h
  · next a b hx hy => exact ⟨a, b, hx, hy⟩
  · cases h

theorem ne_nan_of_compareKeys {r : Int → Int → Bool} (h : compareKeys r x y = true) :
    x ≠ .nan ∧ y ≠ .nan := by
  obtain ⟨a, b, hx, hy⟩ := exists_keys_of_compareKeys h
  exact ⟨exists_key_iff.mp ⟨a, hx⟩, exists_key_iff.mp ⟨b, hy⟩⟩

/-- Comparisons follow from each other as those of the places do. -/
theorem compareKeys_trans {r s q : Int → Int → Bool}
    (hq : ∀ a b c, r a b = true → s b c = true → q a c = true) (h : compareKeys r x y = true)
    (h' : compareKeys s y z = true) : compareKeys q x z = true := by
  obtain ⟨a, b, hx, hy⟩ := exists_keys_of_compareKeys h
  obtain ⟨-, c, -, hz⟩ := exists_keys_of_compareKeys h'
  simp only [compareKeys, hx, hy, hz] at h h' ⊢
  exact hq a b c h h'

theorem le_trans (h : x.le y = true) (h' : y.le z = true) : x.le z = true := by
  refine compareKeys_trans ?_ h h'
  simp only [decide_eq_true_eq]
  omega

theorem lt_of_le_of_lt (h : x.le y = true) (h' : y.lt z = true) : x.lt z = true := by
  refine compareKeys_trans ?_ h h'
  simp only [decide_eq_true_eq]
  omega

theorem lt_of_lt_of_le (h : x.lt y = true) (h' : y.le z = true) : x.lt z = true := by
  refine compareKeys_trans ?_ h h'
  simp only [decide_eq_true_eq]
  omega

theorem le_of_lt (h : x.lt y = true) : x.le y = true := by
  obtain ⟨a, b, hx, hy⟩ := exists_keys_of_compareKeys h
  rw [lt_iff_of_key hx hy] at h
  exact (le_iff_of_key hx hy).mpr h.le

theorem ne_nan_of_isFinite (h : x.isFinite = true) : x ≠ .nan := by
  rintro rfl
  cases h

theorem le_refl (h : x ≠ .nan) : x.le x = true := by
  obtain ⟨a, hx⟩ := exists_key_iff.mpr h
  exact (le_iff_of_key hx hx).mpr (Int.le_refl a)

/-- Of two numbers with places the first is at most the second or lies above it. -/
theorem le_or_lt (hx : x ≠ .nan) (hy : y ≠ .nan) : x.le y = true ∨ y.lt x = true := by
  obtain ⟨a, ha⟩ := exists_key_iff.mpr hx
  obtain ⟨b, hb⟩ := exists_key_iff.mpr hy
  rw [le_iff_of_key ha hb, lt_iff_of_key hb ha]
  exact le_or_gt a b

theorem not_lt_of_le (h : x.le y = true) : ¬y.lt x = true := by
  obtain ⟨a, b, hx, hy⟩ := exists_keys_of_compareKeys h
  rw [le_iff_of_key hx hy] at h
  rw [lt_iff_of_key hy hx]
  exact h.not_gt

theorem key_infinity : infinity.key = some (infiniteUnits : Int) := by
  rw [infinity, key, Magnitude.infinite]

theorem key_negInfinity : negInfinity.key = some (-(infiniteUnits : Int)) := by
  rw [negInfinity, key, Magnitude.infinite]

/-- No place lies beyond those of the infinities, and no finite number has one of these. -/
theorem natAbs_key_le (h : x.key = some a) :
    a.natAbs ≤ infiniteUnits ∧ (x.isFinite = true → a.natAbs < infiniteUnits) := by
  cases x with
  | nan => cases h
  | signed negative m =>
    have ha : a.natAbs = m.val := by
      cases negative with
      | false => rw [← Option.some.inj h, Int.natAbs_natCast]
      | true => rw [← Option.some.inj h, Int.natAbs_neg, Int.natAbs_natCast]
    rw [ha]
    exact ⟨m.property.2, Magnitude.isFinite_iff.mp⟩

theorem negInfinity_le (h : x ≠ .nan) : negInfinity.le x = true := by
  obtain ⟨a, ha⟩ := exists_key_iff.mpr h
  have hbound := (natAbs_key_le ha).1
  rw [le_iff_of_key key_negInfinity ha]
  omega

theorem lt_infinity (h : x.isFinite = true) : x.lt infinity = true := by
  obtain ⟨a, ha⟩ := exists_key_iff.mpr (ne_nan_of_isFinite h)
  have hbound := (natAbs_key_le ha).2 h
  rw [lt_iff_of_key ha key_infinity]
  omega

theorem toRat_eq_of_key (h : x.key = some a) : x.toRat = (a : ℚ) / oneUnits := by
  cases x with
  | nan => cases h
  | signed negative m =>
    cases negative with
    | false =>
      obtain rfl := Option.some.inj h
      rw [toRat, if_neg Bool.false_ne_true, Int.cast_natCast]
    | true =>
      obtain rfl := Option.some.inj h
      rw [toRat, if_pos rfl, Int.cast_neg, Int.cast_natCast, neg_div]

/-- Finite numbers are ordered as the rational numbers that they are. -/
theorem le_iff_toRat_le (hx : x.isFinite = true) (hy : y.isFinite = true) :
    x.le y = true ↔ x.toRat ≤ y.toRat := by
  obtain ⟨a, ha⟩ := exists_key_iff.mpr (ne_nan_of_isFinite hx)
  obtain ⟨b, hb⟩ := exists_key_iff.mpr (ne_nan_of_isFinite hy)
  rw [le_iff_of_key ha hb, toRat_eq_of_key ha, toRat_eq_of_key hb,
    div_le_div_iff_of_pos_right natCast_oneUnits_pos, Int.cast_le]

theorem lt_iff_toRat_lt (hx : x.isFinite = true) (hy : y.isFinite = true) :
    x.lt y = true ↔ x.toRat < y.toRat := by
  obtain ⟨a, ha⟩ := exists_key_iff.mpr (ne_nan_of_isFinite hx)
  obtain ⟨b, hb⟩ := exists_key_iff.mpr (ne_nan_of_isFinite hy)
  rw [lt_iff_of_key ha hb, toRat_eq_of_key ha, toRat_eq_of_key hb,
    div_lt_div_iff_of_pos_right natCast_oneUnits_pos, Int.cast_lt]

end

/-- Of two integers the smaller one is not rounded to the greater number. Otherwise it would lie
above the middle between both numbers and the greater one below it. -/
theorem IsNearest.mono {n n' m m' : Int} (h : IsNearest n m) (h' : IsNearest n' m') (hlt : n < n') :
    m ≤ m' := by
  have hleft : |m - n| ≤ |m' - n| := by exact_mod_cast (h.prefers m' h'.number).nearest
  have hright : |m' - n'| ≤ |m - n'| := by exact_mod_cast (h'.prefers m h.number).nearest
  simp only [Int.abs_eq_natAbs] at hleft hright
  omega

/-- The integers that a 64-bit word holds are rounded in their order. -/
theorem ofInt_le_ofInt {n n' : Int} (hn : InInt64 n) (hn' : InInt64 n') (h : n ≤ n') :
    (ofInt n).le (ofInt n') = true := by
  obtain ⟨hfinite, m, hm, hnear⟩ := ofInt_nearest (n := n) (by unfold InInt64 at hn; omega)
  obtain ⟨hfinite', m', hm', hnear'⟩ := ofInt_nearest (n := n') (by unfold InInt64 at hn'; omega)
  rcases Int.lt_or_eq_of_le h with hlt | rfl
  · rw [le_iff_toRat_le hfinite hfinite', hm, hm', Int.cast_le]
    exact hnear.mono hnear' hlt
  · exact le_refl (ne_nan_of_isFinite hfinite)

end PointSelect.Binary64
