import PointSelect.Proofs.Number.Arithmetic
import Mathlib.Tactic.Linarith

namespace PointSelect

namespace Magnitude

/-- A whole number is rounded by half a step at most. -/
theorem roundHalfEven_error (num : Nat) {den : Nat} (hd : 0 < den) :
    2 * (den * roundHalfEven num den) ≤ 2 * num + den ∧
      2 * num ≤ 2 * (den * roundHalfEven num den) + den := by
  have hnum : den * (num / den) + num % den = num := Nat.div_add_mod num den
  simp only [roundHalfEven]
  split_ifs with h
  · generalize den * (num / den) = x at hnum ⊢
    have hr : 2 * (num % den) ≤ den := by omega
    omega
  · rw [Nat.mul_add, Nat.mul_one]
    generalize den * (num / den) = x at hnum ⊢
    have hr : den ≤ 2 * (num % den) := by omega
    have hlt := Nat.mod_lt num hd
    omega

theorem spacing_mul {u : Nat} (h : 2 ^ 52 ≤ u) : spacing u * 2 ^ 52 = 2 ^ u.log2 := by
  have hu : u ≠ 0 := by omega
  have hl : 52 ≤ u.log2 := (Nat.le_log2 hu).mpr h
  rw [spacing_eq, ← Nat.pow_add]
  congr 1
  omega

/-- Rounding adds half a step at most. -/
theorem nearestUnits_le (num : Nat) {den : Nat} (hd : 0 < den) :
    nearestUnits num den * den * 2 ^ 53 ≤
      num * 2 ^ 53 + den * (spacing (num / den) * 2 ^ 52) := by
  have hle : nearestUnits num den ≤
      spacing (num / den) * roundHalfEven num (den * spacing (num / den)) := Nat.min_le_left _ _
  have herr := (roundHalfEven_error num (Nat.mul_pos hd (spacing_pos (num / den)))).1
  generalize spacing (num / den) = s at hle herr ⊢
  generalize roundHalfEven num (den * s) = r at hle herr
  generalize nearestUnits num den = n at hle ⊢
  have hn : n * den ≤ den * s * r := by
    calc
      n * den ≤ s * r * den := Nat.mul_le_mul_right den hle
      _ = den * s * r := by ring
  linarith

/-- Half a step is at most one part in 2 ^ 53. -/
theorem nearestUnits_le_relative {num den : Nat} (h : 2 ^ 52 * den ≤ num) (hd : 0 < den) :
    nearestUnits num den * den * 2 ^ 53 ≤ num * (2 ^ 53 + 1) := by
  have hq : 2 ^ 52 ≤ num / den := (Nat.le_div_iff_mul_le hd).mpr h
  have hs : spacing (num / den) * 2 ^ 52 ≤ num / den := by
    rw [spacing_mul hq]
    exact Nat.log2_self_le (by omega)
  have hstep : den * (spacing (num / den) * 2 ^ 52) ≤ num :=
    (Nat.mul_le_mul_left den hs).trans (Nat.mul_div_le num den)
  have hle := nearestUnits_le num hd
  linarith

/-- Below the normal numbers half a step is half a unit. -/
theorem nearestUnits_le_absolute (num : Nat) {den : Nat} (hd : 0 < den) :
    nearestUnits num den * den * 2 ^ 53 ≤ num * (2 ^ 53 + 1) + den * 2 ^ 52 := by
  rcases Nat.le_total (2 ^ 52 * den) num with h | h
  · exact (nearestUnits_le_relative h hd).trans (Nat.le_add_right _ _)
  · have hq : num / den ≤ 2 ^ 52 := Nat.div_le_of_le_mul (by rwa [Nat.mul_comm])
    have hs : spacing (num / den) ≤ 1 := by
      have hlog : (num / den).log2 ≤ 52 := by
        have h53 : (num / den).log2 < 53 := by
          rcases Nat.eq_zero_or_pos (num / den) with hz | hpos
          · rw [hz]
            decide
          · exact (Nat.log2_lt (by omega)).mpr (by omega)
        omega
      rw [spacing_eq, Nat.sub_eq_zero_of_le hlog, Nat.pow_zero]
    have hstep : den * (spacing (num / den) * 2 ^ 52) ≤ den * (1 * 2 ^ 52) :=
      Nat.mul_le_mul_left den (Nat.mul_le_mul_right _ hs)
    have hle := nearestUnits_le num hd
    linarith

/-- The greatest steps are 2 ^ 53 of them below infinity. -/
theorem exists_infiniteUnits_eq : ∃ h, infiniteUnits = 2 ^ 53 * h ∧
    (∀ u < infiniteUnits, spacing u ≤ h) ∧
    ∀ u, u ≠ 0 → infiniteUnits ≤ 2 * u → u < infiniteUnits → spacing u = h := by
  have h53 : 53 ≤ infiniteExponent := by
    unfold infiniteExponent
    omega
  rw [infiniteUnits_eq]
  generalize infiniteExponent = n at h53
  obtain ⟨k, rfl⟩ := Nat.exists_eq_add_of_le h53
  have hlog : ∀ u, u ≠ 0 → u < 2 ^ (53 + k) → u.log2 < 53 + k :=
    fun u hu hlt => (Nat.log2_lt hu).mpr hlt
  refine ⟨2 ^ k, Nat.pow_add 2 53 k, ?_, ?_⟩
  · intro u hlt
    rw [spacing_eq]
    apply Nat.pow_le_pow_right (by decide)
    rcases Nat.eq_zero_or_pos u with rfl | hu
    · simp
    · have := hlog u (by omega) hlt
      omega
  · intro u hu hhalf hlt
    have hl := hlog u hu hlt
    rw [show 53 + k = 52 + k + 1 by omega, Nat.pow_succ, Nat.mul_comm] at hhalf
    have hg : 52 + k ≤ u.log2 := (Nat.le_log2 hu).mpr (Nat.le_of_mul_le_mul_left hhalf (by decide))
    rw [spacing_eq]
    congr 1
    omega

theorem infiniteUnits_eq_mul : infiniteUnits = 2 ^ 1024 * oneUnits := by
  have hadd : ∀ k n, 2 ^ (k + n) = 2 ^ n * 2 ^ k := fun k n => by rw [Nat.pow_add, Nat.mul_comm]
  rw [infiniteUnits_eq, oneUnits_eq]
  unfold infiniteExponent
  exact hadd oneExponent 1024

theorem div_le_roundHalfEven (num den : Nat) : num / den ≤ roundHalfEven num den := by
  simp only [roundHalfEven]
  split_ifs <;> omega

/-- From infinity on everything is rounded to infinity. -/
theorem nearestUnits_of_infiniteUnits_le {num den : Nat} (h : infiniteUnits ≤ num / den) :
    nearestUnits num den = infiniteUnits := by
  have h52 : 2 ^ 52 ≤ infiniteUnits := by
    rw [infiniteUnits_eq]
    exact Nat.pow_le_pow_right (by decide) (by unfold infiniteExponent; omega)
  have hq : num / den ≠ 0 := by omega
  have hlog : infiniteUnits ≤ 2 ^ (num / den).log2 := by
    rw [infiniteUnits_eq] at h ⊢
    exact Nat.pow_le_pow_right (by decide) ((Nat.le_log2 hq).mpr h)
  have hs := spacing_mul (h52.trans h)
  have hround : 2 ^ 52 ≤ roundHalfEven num (den * spacing (num / den)) := by
    refine Nat.le_trans ?_ (div_le_roundHalfEven _ _)
    rw [← Nat.div_div_eq_div_mul, Nat.le_div_iff_mul_le (spacing_pos _), Nat.mul_comm, hs]
    exact Nat.log2_self_le hq
  refine Nat.min_eq_right (hlog.trans ?_)
  rw [← hs]
  exact Nat.mul_le_mul_left _ hround

/-- What lies below a quarter of infinity is not rounded to infinity. -/
theorem isFinite_ofRatio {num den : Nat} (hd : 0 < den) (h : num * 4 ≤ infiniteUnits * den) :
    (ofRatio num den).isFinite = true := by
  rw [isFinite_iff]
  have hinf : 2 ^ 2 ≤ infiniteUnits := by
    rw [infiniteUnits_eq]
    exact Nat.pow_le_pow_right (by decide) (by unfold infiniteExponent; omega)
  have hle := nearestUnits_le_absolute num hd
  have hden : 4 * den ≤ infiniteUnits * den := Nat.mul_le_mul_right den hinf
  change nearestUnits num den < infiniteUnits
  refine Nat.lt_of_mul_lt_mul_right (a := den) ?_
  generalize nearestUnits num den * den = n at hle ⊢
  generalize infiniteUnits * den = bound at h hden ⊢
  omega

/-- What is rounded to a finite magnitude lies above it by half of the greatest step at most. -/
theorem le_of_nearestUnits_lt {num den : Nat} (hd : 0 < den)
    (h : nearestUnits num den < infiniteUnits) :
    num * 2 ^ 54 ≤ (nearestUnits num den * 2 ^ 54 + infiniteUnits) * den := by
  obtain ⟨step, hstep, hle, -⟩ := exists_infiniteUnits_eq
  have hn : nearestUnits num den =
      spacing (num / den) * roundHalfEven num (den * spacing (num / den)) := by
    rcases Nat.le_total (spacing (num / den) * roundHalfEven num (den * spacing (num / den)))
      infiniteUnits with hmin | hmin
    · exact Nat.min_eq_left hmin
    · exact absurd h (by rw [nearestUnits, Nat.min_eq_right hmin]; exact Nat.lt_irrefl _)
  have hq : num / den < infiniteUnits := by
    by_contra hge
    rw [nearestUnits_of_infiniteUnits_le (Nat.le_of_not_lt hge)] at h
    exact Nat.lt_irrefl _ h
  have hs := hle _ hq
  have herr := (roundHalfEven_error num (Nat.mul_pos hd (spacing_pos (num / den)))).2
  rw [hn, hstep]
  generalize spacing (num / den) = s at hs herr
  generalize roundHalfEven num (den * s) = r at herr
  have hds : den * s ≤ den * step := Nat.mul_le_mul_left den hs
  have hr : (s * r * 2 ^ 54 + 2 ^ 53 * step) * den =
      den * s * r * 2 ^ 54 + den * step * 2 ^ 53 := by ring
  rw [hr]
  omega

theorem ofNat_le (s : Nat) : (ofNat s).val * 2 ^ 53 ≤ s * oneUnits * (2 ^ 53 + 1) := by
  rcases Nat.eq_zero_or_pos s with rfl | hs
  · have hfits : Fits (0 * oneUnits) := by
      rw [Nat.zero_mul]
      exact fits_zero
    rw [ofNat_val hfits, Nat.zero_mul]
    exact Nat.zero_le _
  · have hone : 2 ^ 52 ≤ oneUnits := by
      rw [oneUnits_eq]
      exact Nat.pow_le_pow_right (by decide) (by decide)
    have hbig : 2 ^ 52 * 1 ≤ s * oneUnits := by
      rw [Nat.mul_one]
      exact hone.trans (Nat.le_mul_of_pos_left _ hs)
    have hle := nearestUnits_le_relative hbig Nat.one_pos
    rw [Nat.mul_one] at hle
    exact hle

theorem tenPow_le (e : Nat) : (tenPow e).val * 2 ^ 53 ≤ 10 ^ e * oneUnits * (2 ^ 53 + 1) := by
  have h : tenPow e = ofNat (10 ^ e) := by
    rw [tenPow, Decimal.magnitudeOf_natCast, Nat.one_mul, Nat.pow_eq]
    rfl
  rw [h]
  exact ofNat_le _

/-- Three roundings do not lead from a number to infinity that is smaller by 7 parts in 2 ^ 54. -/
theorem isFinite_ofNat_mul_tenPow {s e : Nat}
    (h : s * 10 ^ e * oneUnits * 2 ^ 54 ≤ infiniteUnits * (2 ^ 54 - 7)) :
    ((ofNat s).mul (tenPow e)).isFinite = true := by
  rw [isFinite_iff]
  have hA := ofNat_le s
  have hT := tenPow_le e
  have hR := nearestUnits_le_absolute ((ofNat s).val * (tenPow e).val) oneUnits_pos
  have hU := oneUnits_pos
  have hinf : 2 ^ 54 ≤ infiniteUnits := by
    rw [infiniteUnits_eq]
    exact Nat.pow_le_pow_right (by decide) (by unfold infiniteExponent; omega)
  change nearestUnits ((ofNat s).val * (tenPow e).val) oneUnits < infiniteUnits
  generalize nearestUnits ((ofNat s).val * (tenPow e).val) oneUnits = r at hR ⊢
  generalize (ofNat s).val = a at hA hR
  generalize (tenPow e).val = t at hT hR
  generalize oneUnits = u at h hA hT hR hU
  generalize infiniteUnits = inf at h hinf ⊢
  -- the three errors together, with the unit of the product cancelled
  have hprod := Nat.mul_le_mul hA hT
  have hcancel : u * (r * 2 ^ 159) ≤ u * (s * 10 ^ e * u * (2 ^ 53 + 1) ^ 3 + 2 ^ 158) := by
    nlinarith
  have hr := Nat.le_of_mul_le_mul_left hcancel hU
  generalize s * 10 ^ e * u = x at h hr
  norm_num at h hr hinf
  omega

end Magnitude

namespace Decimal

variable {d : Nat} {e : Int} {m : Magnitude}

/-- A decimal number that is rounded to a finite magnitude lies above it by half of the greatest
step at most. -/
theorem le_of_magnitudeOf (hm : magnitudeOf d e = m) (hfinite : m.isFinite = true) :
    d * 10 ^ e.toNat * oneUnits * 2 ^ 54 ≤
      (m.val * 2 ^ 54 + infiniteUnits) * 10 ^ (-e).toNat := by
  have hlt := Magnitude.isFinite_iff.mp hfinite
  rcases lt_or_ge e 0 with hneg | hpos
  · obtain ⟨n, rfl⟩ : ∃ n : Nat, e = -(n : Int) := ⟨e.natAbs, by omega⟩
    rw [magnitudeOf_neg_natCast d (by omega)] at hm
    have hv : Magnitude.nearestUnits (d * oneUnits) (10 ^ n) = m.val := congrArg Subtype.val hm
    have h := Magnitude.le_of_nearestUnits_lt (Nat.pow_pos (by decide)) (hv ▸ hlt)
    rw [hv] at h
    simpa using h
  · obtain ⟨n, rfl⟩ : ∃ n : Nat, e = n := ⟨e.toNat, by omega⟩
    rw [magnitudeOf_natCast] at hm
    have hv : Magnitude.nearestUnits (d * 10 ^ n * oneUnits) 1 = m.val := congrArg Subtype.val hm
    have h := Magnitude.le_of_nearestUnits_lt Nat.one_pos (hv ▸ hlt)
    rw [hv] at h
    simpa using h

/-- So does what is left of such a number when its last digits are cut off. -/
theorem le_of_magnitudeOf_cut (hm : magnitudeOf d e = m) (hfinite : m.isFinite = true) {s r : Nat}
    (hs : s * 10 ^ r ≤ d) (hr : 0 ≤ e + r) :
    s * 10 ^ (e + r).toNat * oneUnits * 2 ^ 54 ≤ m.val * 2 ^ 54 + infiniteUnits := by
  have h := le_of_magnitudeOf hm hfinite
  generalize m.val * 2 ^ 54 + infiniteUnits = bound at h ⊢
  generalize oneUnits = u at h ⊢
  rcases lt_or_ge e 0 with hneg | hpos
  · obtain ⟨n, rfl⟩ : ∃ n : Nat, e = -(n : Int) := ⟨e.natAbs, by omega⟩
    obtain ⟨k, rfl⟩ : ∃ k, r = n + k := ⟨r - n, by omega⟩
    have hk : (-(n : Int) + (n + k : Nat)).toNat = k := by omega
    have hn : (-(n : Int)).toNat = 0 := by omega
    rw [hn, Int.neg_neg, Int.toNat_natCast, Nat.pow_zero, Nat.mul_one] at h
    rw [hk]
    refine Nat.le_of_mul_le_mul_right ?_ (Nat.pow_pos (n := n) (by decide : 0 < 10))
    calc
      s * 10 ^ k * u * 2 ^ 54 * 10 ^ n = s * 10 ^ (n + k) * (u * 2 ^ 54) := by ring
      _ ≤ d * (u * 2 ^ 54) := Nat.mul_le_mul_right _ hs
      _ = d * u * 2 ^ 54 := by ring
      _ ≤ bound * 10 ^ n := h
  · obtain ⟨n, rfl⟩ : ∃ n : Nat, e = n := ⟨e.toNat, by omega⟩
    have hk : ((n : Int) + r).toNat = n + r := by omega
    have hn : (-(n : Int)).toNat = 0 := by omega
    rw [hn, Int.toNat_natCast, Nat.pow_zero, Nat.mul_one] at h
    rw [hk]
    calc
      s * 10 ^ (n + r) * u * 2 ^ 54 = s * 10 ^ r * (10 ^ n * u * 2 ^ 54) := by ring
      _ ≤ d * (10 ^ n * u * 2 ^ 54) := Nat.mul_le_mul_right _ hs
      _ = d * 10 ^ n * u * 2 ^ 54 := by ring
      _ ≤ bound := h

/-- Beyond the greatest exponent that is computed with everything but zero is infinite. -/
theorem magnitudeOf_overflow {d n : Nat} (hd : 0 < d) (hn : 400 ≤ n) :
    magnitudeOf d n = .infinite := by
  have hexp : infiniteExponent ≤ 3 * n + oneExponent := by
    unfold infiniteExponent
    omega
  have hunits : infiniteUnits ≤ d * Nat.pow 10 n * oneUnits / 1 := by
    rw [Nat.div_one, Nat.pow_eq, Magnitude.infiniteUnits_eq, oneUnits_eq]
    generalize infiniteExponent = k at hexp
    generalize oneExponent = l at hexp
    calc
      2 ^ k ≤ 2 ^ (3 * n + l) := Nat.pow_le_pow_right (by decide) hexp
      _ = (2 ^ 3) ^ n * 2 ^ l := by rw [Nat.pow_add, Nat.pow_mul]
      _ ≤ 10 ^ n * 2 ^ l := Nat.mul_le_mul_right _ (Nat.pow_le_pow_left (by decide) n)
      _ ≤ d * 10 ^ n * 2 ^ l := Nat.mul_le_mul_right _ (Nat.le_mul_of_pos_left _ hd)
  have hinfinite : Magnitude.infinite.val = infiniteUnits := by rw [Magnitude.infinite]
  have hnearest := (Magnitude.nearestUnits_of_infiniteUnits_le hunits).trans hinfinite.symm
  rw [magnitudeOf_natCast]
  exact Subtype.ext hnearest

/-- A decimal number is read as the nearest one: keeping its exponent within bounds changes
nothing. -/
theorem toBinary64_eq (d : Decimal) :
    d.toBinary64 = .signed d.negative (magnitudeOf d.digits d.exponent) := by
  obtain ⟨negative, digits, e⟩ := d
  rcases Int.le_total e 0 with hneg | hpos
  · rw [toBinary64, magnitudeOf_boundedExponent digits hneg]
  · obtain ⟨n, rfl⟩ : ∃ n : Nat, e = n := ⟨e.toNat, by omega⟩
    have hb : boundedExponent digits n = (min 400 n : Nat) := by
      rw [boundedExponent]
      omega
    rw [toBinary64, hb]
    rcases Nat.le_total n 400 with hin | hout
    · rw [Nat.min_eq_right hin]
    · rw [Nat.min_eq_left hout]
      rcases Nat.eq_zero_or_pos digits with rfl | hd
      · rw [magnitudeOf_zero, magnitudeOf_zero]
      · rw [magnitudeOf_overflow hd (Nat.le_refl 400), magnitudeOf_overflow hd hout]

theorem isFinite_magnitudeOf {d : Nat} {e : Int} (hd : d ≤ 2 ^ 53) (he : e.natAbs ≤ 22) :
    (magnitudeOf d e).isFinite = true := by
  have hbound : ∀ {num den : Nat}, 0 < den → num ≤ 2 ^ 53 * 2 ^ (4 * 22) * oneUnits →
      (Magnitude.ofRatio num den).isFinite = true := by
    intro num den hden hnum
    have hexp : 53 + 4 * 22 + oneExponent + 2 ≤ infiniteExponent := by
      unfold infiniteExponent
      omega
    refine Magnitude.isFinite_ofRatio hden (Nat.le_trans ?_ (Nat.le_mul_of_pos_right _ hden))
    rw [oneUnits_eq] at hnum
    rw [Magnitude.infiniteUnits_eq]
    generalize infiniteExponent = k at hexp ⊢
    generalize oneExponent = l at hexp hnum
    calc
      num * 4 ≤ 2 ^ 53 * 2 ^ (4 * 22) * 2 ^ l * 2 ^ 2 := Nat.mul_le_mul_right 4 hnum
      _ = 2 ^ (53 + 4 * 22 + l + 2) := by rw [Nat.pow_add, Nat.pow_add, Nat.pow_add]
      _ ≤ 2 ^ k := Nat.pow_le_pow_right (by decide) hexp
  have hpow : ∀ {k : Nat}, k ≤ 22 → 10 ^ k ≤ 2 ^ (4 * 22) := by
    intro k hk
    calc
      10 ^ k ≤ (2 ^ 4) ^ k := Nat.pow_le_pow_left (by decide) k
      _ = 2 ^ (4 * k) := (Nat.pow_mul 2 4 k).symm
      _ ≤ 2 ^ (4 * 22) := Nat.pow_le_pow_right (by decide) (by omega)
  rcases lt_or_ge e 0 with hneg | hpos
  · obtain ⟨k, rfl⟩ : ∃ k : Nat, e = -(k : Int) := ⟨e.natAbs, by omega⟩
    rw [magnitudeOf_neg_natCast d (by omega), Nat.pow_eq]
    have hle : d ≤ 2 ^ 53 * 2 ^ (4 * 22) := hd.trans (Nat.le_mul_of_pos_right _ (Nat.two_pow_pos _))
    exact hbound (Nat.pow_pos (by decide)) (Nat.mul_le_mul_right oneUnits hle)
  · obtain ⟨k, rfl⟩ : ∃ k : Nat, e = k := ⟨e.toNat, by omega⟩
    rw [magnitudeOf_natCast, Nat.pow_eq]
    have hle : d * 10 ^ k ≤ 2 ^ 53 * 2 ^ (4 * 22) := Nat.mul_le_mul hd (hpow (by omega))
    have hnum := Nat.mul_le_mul_right oneUnits hle
    exact hbound Nat.one_pos hnum

end Decimal

end PointSelect
