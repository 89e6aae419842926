import PointSelect.Proofs.Json.ShortNumber
import PointSelect.Proofs.Number.Error

namespace PointSelect.Json

namespace Numeral

/-- Digits are left out at the end only. -/
theorem collect_le {bound n s : Nat} {cs left : List Char} (h : collect bound n cs = (s, left)) :
    s * 10 ^ left.length ≤ 10 ^ cs.length * n + Decimal.ofDigits cs ∧ left.length ≤ cs.length := by
  induction cs generalizing n with
  | nil =>
    obtain ⟨rfl, rfl⟩ := Prod.mk.inj h
    simp
  | cons c cs ih =>
    rw [collect] at h
    split_ifs at h
    · obtain ⟨rfl, rfl⟩ := Prod.mk.inj h
      rw [Nat.mul_comm]
      exact ⟨Nat.le_add_right _ _, Nat.le_refl _⟩
    · obtain ⟨hle, hlen⟩ := ih h
      rw [List.length_cons, digits_step]
      exact ⟨hle, by omega⟩

/-- What is collected of the digits is what is left of them when the last ones are cut off. -/
theorem exists_collectedPower_eq {n : Numeral}
    (hwhole : Decimal.ofDigits n.whole ≤ maxSignificand) :
    ∃ r : Nat, n.collectedPower = n.power + r ∧ n.significand.1 * 10 ^ r ≤ n.digits ∧
      r ≤ (n.fraction.getD []).length := by
  have hw := collect_all hwhole
  rcases hf : collect maxSignificand (Decimal.ofDigits n.whole) (n.fraction.getD []) with ⟨s, left⟩
  obtain ⟨hle, hlen⟩ := collect_le hf
  have hs : n.significand =
      (s, -(((n.fraction.getD []).length - left.length : Nat) : Int)) := by
    rw [significand, hw]
    simp [hf]
  refine ⟨left.length, ?_, ?_, hlen⟩
  · rw [collectedPower, hs, power]
    omega
  · rw [hs, digits, Decimal.ofDigits_append]
    exact hle

theorem isSome_scale?_of_neg (m : Magnitude) (fuel : Nat) {e : Int} (he : e < 0) :
    (scale? m fuel e).isSome = true := by
  induction fuel generalizing m e with
  | zero => rfl
  | succ fuel ih =>
    rw [scale?]
    split_ifs
    · omega
    · rfl
    · rfl
    · omega
    · exact ih _ (by omega)

/-- A positive number that is scaled that far is above infinity. -/
theorem eq_zero_of_le {s e : Nat} (he : 308 < e) (h : s * 10 ^ e * oneUnits ≤ infiniteUnits) :
    s = 0 := by
  by_contra hs
  rw [Magnitude.infiniteUnits_eq_mul] at h
  have hle := Nat.le_of_mul_le_mul_right h oneUnits_pos
  have hpow : ∀ n ≤ e, 10 ^ n ≤ 10 ^ e := fun n hn => Nat.pow_le_pow_right (by decide) hn
  have hten := (hpow 309 he).trans (Nat.le_mul_of_pos_left _ (Nat.pos_of_ne_zero hs))
  exact absurd (hten.trans hle) (by decide +kernel)

/-- Scaling up is refused only where it leads near infinity. -/
theorem isSome_scale? {s : Nat} (fuel : Nat) {e : Int}
    (h : 0 ≤ e → s * 10 ^ e.toNat * oneUnits * 2 ^ 54 ≤ infiniteUnits * (2 ^ 54 - 7)) :
    (scale? (.ofNat s) fuel e).isSome = true := by
  rcases lt_or_ge e 0 with hneg | hpos
  · exact isSome_scale?_of_neg _ fuel hneg
  · have hbound := h hpos
    cases fuel with
    | zero => rfl
    | succ fuel =>
      rw [scale?]
      split_ifs with hsmall hz
      · simp only [Magnitude.isFinite_ofNat_mul_tenPow hbound, if_true, Option.isSome_some]
      · rfl
      · -- so far only zero can be scaled
        have hs : s = 0 := by
          refine eq_zero_of_le (e := e.toNat) (by omega) ?_
          refine Nat.le_of_mul_le_mul_right (hbound.trans ?_) (by decide : 0 < 2 ^ 54)
          exact Nat.mul_le_mul_left _ (by decide)
        refine absurd ?_ hz
        rw [hs]
        exact Magnitude.ofRatio_underflow (by rw [Nat.zero_mul]; decide)

theorem natAbs_exponentValue_le {n : Numeral} {bound : Nat}
    (h : ∀ x ∈ n.exponent, Decimal.ofDigits x.2 ≤ bound) : n.exponentValue.natAbs ≤ bound := by
  rw [exponentValue]
  cases hx : n.exponent with
  | none => simp
  | some x =>
    have hle := h x hx
    rw [Option.elim_some]
    split_ifs <;> omega

end Numeral

theorem ofDigits_lt {ds : List Char} (h : ∀ c ∈ ds, c.isDigit = true) :
    Decimal.ofDigits ds < 10 ^ ds.length := by
  induction ds with
  | nil => decide
  | cons c cs ih =>
    have hc : c.toNat - '0'.toNat < 10 := by
      have hd : 48 ≤ c.toNat ∧ c.toNat ≤ 57 := Char.isDigit_iff_toNat.mp (h c List.mem_cons_self)
      have hz : '0'.toNat = 48 := rfl
      omega
    have hcs := ih fun d hd => h d (List.mem_cons_of_mem c hd)
    have hstep := Numeral.digits_step c cs 0
    rw [Nat.mul_zero, Nat.mul_zero, Nat.zero_add, Nat.zero_add] at hstep
    rw [hstep, List.length_cons, Nat.pow_succ]
    calc
      10 ^ cs.length * (c.toNat - '0'.toNat) + Decimal.ofDigits cs <
          10 ^ cs.length * (c.toNat - '0'.toNat) + 10 ^ cs.length * 1 := by omega
      _ = 10 ^ cs.length * (c.toNat - '0'.toNat + 1) := (Nat.mul_add _ _ _).symm
      _ ≤ 10 ^ cs.length * 10 := Nat.mul_le_mul_left _ hc

theorem length_whole_decimalNumeral (negative : Bool) (ds : List Char) (e : Int) :
    (decimalNumeral negative ds e).whole.length ≤ 16 := by
  unfold decimalNumeral
  simp only
  split_ifs
  all_goals
    simp only [List.length_take, List.length_append, List.length_singleton, Layout.zeros,
      List.length_replicate]
    omega

theorem decimalNumeral_bounds (negative : Bool) (d : Nat) (e : Int) :
    let n := decimalNumeral negative (Nat.toDigits 10 d) e
    n.power.natAbs ≤ e.natAbs + 1 ∧ (n.fraction.isSome = true ∨ n.exponent.isSome = true) ∧
      ∀ x ∈ n.exponent, Decimal.ofDigits x.2 ≤ (Nat.toDigits 10 d).length + e.natAbs := by
  intro n
  by_cases h : 0 ≤ e ∧ (Nat.toDigits 10 d).length + e ≤ 16
  · obtain ⟨-, hpower, hfraction, hexponent⟩ := decimalNumeral_of_whole negative h.1 h.2
    refine ⟨?_, by simp [n, hfraction], by simp [n, hexponent]⟩
    rw [hpower]
    omega
  · obtain ⟨-, hpower, hpoint, hexponent⟩ := decimalNumeral_of_other negative h
    refine ⟨?_, hpoint, hexponent⟩
    rw [hpower]
    omega

theorem length_toDigits_le_of_lt {d k n : Nat} (hd : d ≠ 0) (hn : 0 < n)
    (h : d * 10 ^ k < 10 ^ n) : (Nat.toDigits 10 d).length ≤ n ∧ k < n := by
  have hdigits : d < 10 ^ n := (Nat.le_mul_of_pos_right d (Nat.pow_pos (by decide))).trans_lt h
  have hpower : 10 ^ k < 10 ^ n :=
    (Nat.le_mul_of_pos_left _ (Nat.pos_of_ne_zero hd)).trans_lt h
  exact ⟨(Nat.length_toDigits_le_iff (by decide) hn).mpr hdigits,
    (Nat.pow_lt_pow_iff_right (by decide)).mp hpower⟩

section

variable {d : Nat} {e : Int} {m : Magnitude} (hm : Decimal.magnitudeOf d e = m)
  (hfinite : m.isFinite = true)
include hm hfinite

/-- The digits of a finite number are not too many, and its exponent is not too large. -/
theorem length_toDigits_le (hd : d ≠ 0) (he : -1074 ≤ e) :
    (Nat.toDigits 10 d).length ≤ 1384 ∧ e ≤ 1384 := by
  have h := Decimal.le_of_magnitudeOf hm hfinite
  have hlt := Magnitude.isFinite_iff.mp hfinite
  have hpow : ∀ n, (-e).toNat ≤ n → 10 ^ (-e).toNat ≤ 10 ^ n :=
    fun n hn => Nat.pow_le_pow_right (by decide) hn
  have hsum : m.val * 2 ^ 54 + infiniteUnits ≤ infiniteUnits * 2 ^ 55 := by linarith
  have hprod : oneUnits * (d * 10 ^ e.toNat * 2 ^ 54) ≤
      oneUnits * (2 ^ 1024 * 2 ^ 55 * 10 ^ 1074) := by
    calc
      oneUnits * (d * 10 ^ e.toNat * 2 ^ 54) = d * 10 ^ e.toNat * oneUnits * 2 ^ 54 := by
        generalize oneUnits = u
        ring
      _ ≤ (m.val * 2 ^ 54 + infiniteUnits) * 10 ^ (-e).toNat := h
      _ ≤ infiniteUnits * 2 ^ 55 * 10 ^ 1074 := Nat.mul_le_mul hsum (hpow 1074 (by omega))
      _ = oneUnits * (2 ^ 1024 * 2 ^ 55 * 10 ^ 1074) := by
        rw [Magnitude.infiniteUnits_eq_mul, Nat.mul_comm (2 ^ 1024), Nat.mul_assoc, Nat.mul_assoc,
          Nat.mul_assoc]
  have hbound : d * 10 ^ e.toNat < 10 ^ 1384 := by
    have hle := Nat.le_of_mul_le_mul_left hprod oneUnits_pos
    have hten : 2 ^ 1024 * 2 ^ 55 * 10 ^ 1074 < 10 ^ 1384 * 2 ^ 54 := by decide +kernel
    exact Nat.lt_of_mul_lt_mul_right (hle.trans_lt hten)
  obtain ⟨hlen, hexponent⟩ := length_toDigits_le_of_lt hd (by decide) hbound
  exact ⟨hlen, Int.toNat_le.mp hexponent.le⟩

/-- A number is read that is not next to infinity. -/
theorem isSome_magnitude?_decimalNumeral (hd : d ≠ 0) (he : -1074 ≤ e)
    (hfar : m.val * 2 ^ 54 ≤ infiniteUnits * (2 ^ 54 - 8)) (negative : Bool) :
    (decimalNumeral negative (Nat.toDigits 10 d) e).magnitude?.isSome = true := by
  have hv := (magnitudeOf_decimalNumeral negative).trans hm
  obtain ⟨hpower, hpoint, hexponent⟩ := decimalNumeral_bounds negative d e
  obtain ⟨hlen, hle⟩ := length_toDigits_le hm hfinite hd he
  have hwhole : Decimal.ofDigits (decimalNumeral negative (Nat.toDigits 10 d) e).whole ≤
      Numeral.maxSignificand := by
    have hform := wellFormed_decimalNumeral (isDigits_toDigits d)
      (fun h => hd (eq_zero_of_head?_toDigits h)) negative e
    have hlt := ofDigits_lt hform.whole.isDigit
    have hten := Nat.pow_le_pow_right (by decide : 0 < 10)
      (length_whole_decimalNumeral negative (Nat.toDigits 10 d) e)
    rw [Numeral.maxSignificand]
    omega
  generalize decimalNumeral negative (Nat.toDigits 10 d) e = n at *
  obtain ⟨r, hr, hcut, hrlen⟩ := Numeral.exists_collectedPower_eq hwhole
  have habs := Numeral.natAbs_exponentValue_le hexponent
  have hfraction : n.power = n.exponentValue - (n.fraction.getD []).length := rfl
  rw [Numeral.magnitude?_eq_scale? _ _ hpoint]
  · apply Numeral.isSome_scale?
    intro hpos
    rw [hr] at hpos ⊢
    refine (Decimal.le_of_magnitudeOf_cut hv hfinite hcut hpos).trans ?_
    refine (Nat.add_le_add_right hfar infiniteUnits).trans (Nat.le_of_eq ?_)
    generalize infiniteUnits = u
    norm_num
    ring
  · intro x hx
    have := hexponent x hx
    rw [Numeral.maxExponent]
    omega
  · omega

end

/-- The magnitude so many steps before infinity. -/
def beforeInfinity (k : Nat) : Magnitude :=
  .ofRatio (infiniteUnits / 2 ^ 53 * (2 ^ 53 - k)) 1

theorem exists_eq_beforeInfinity {m : Magnitude} (hfinite : m.isFinite = true)
    (h : infiniteUnits * (2 ^ 54 - 8) < m.val * 2 ^ 54) :
    ∃ k ∈ [1, 2, 3], m = beforeInfinity k := by
  obtain ⟨step, hstep, -, hspacing⟩ := Magnitude.exists_infiniteUnits_eq
  have hlt := Magnitude.isFinite_iff.mp hfinite
  have hm : m.val ≠ 0 := by
    intro hz
    rw [hz, Nat.zero_mul] at h
    exact Nat.not_lt_zero _ h
  have hhalf : infiniteUnits ≤ 2 * m.val := by
    generalize infiniteUnits = u at h ⊢
    norm_num at h
    omega
  have hs := hspacing m.val hm hhalf hlt
  obtain ⟨j, hj⟩ := hs ▸ m.property.1
  have hdiv : infiniteUnits / 2 ^ 53 = step := by
    rw [hstep]
    exact Nat.mul_div_cancel_left step (by decide)
  rw [hj, hstep] at hlt h
  have hpos : 0 < step := Nat.pos_of_ne_zero fun hz => hm (by rw [hj, hz, Nat.zero_mul])
  have hupper : j < 2 ^ 53 := by
    rw [Nat.mul_comm] at hlt
    exact Nat.lt_of_mul_lt_mul_right hlt
  have hlower : 2 ^ 53 * (2 ^ 54 - 8) < j * 2 ^ 54 := by
    refine Nat.lt_of_mul_lt_mul_left (a := step) ?_
    calc
      step * (2 ^ 53 * (2 ^ 54 - 8)) = 2 ^ 53 * step * (2 ^ 54 - 8) := by ring
      _ < step * j * 2 ^ 54 := h
      _ = step * (j * 2 ^ 54) := Nat.mul_assoc _ _ _
  have hk : m = beforeInfinity (2 ^ 53 - j) := by
    have hval := Magnitude.ofRatio_val m Nat.one_pos
    have hsub : 2 ^ 53 - (2 ^ 53 - j) = j := Nat.sub_sub_self hupper.le
    rw [Nat.mul_one, hj] at hval
    rw [beforeInfinity, hdiv, hsub, hval]
  refine ⟨2 ^ 53 - j, ?_, hk⟩
  have hthree : 2 ^ 53 - j = 1 ∨ 2 ^ 53 - j = 2 ∨ 2 ^ 53 - j = 3 := by omega
  simpa using hthree

theorem shortest_beforeInfinity : ∀ k ∈ [1, 2, 3],
    (beforeInfinity k).shortest .even = (17976931348623159 - 2 * k, 292) := by
  decide +kernel

theorem isSome_magnitude?_beforeInfinity : ∀ k ∈ [1, 2, 3], ∀ negative,
    (decimalNumeral negative (Nat.toDigits 10 (17976931348623159 - 2 * k)) 292).magnitude?.isSome =
      true := by
  decide +kernel

theorem le_shortest (tie : Tie) (m : Magnitude) : -1074 ≤ (m.shortest tie).2 := by
  have he : (oneExponent : Int) = 1074 := rfl
  rw [Magnitude.shortest]
  simp only [he]
  omega

theorem isSome_magnitude?_numeralOf {m : Magnitude} (hfinite : m.isFinite = true)
    (negative : Bool) : (numeralOf negative m).magnitude?.isSome = true := by
  by_cases hz : m.val = 0
  · obtain rfl : m = .zero := Subtype.ext hz
    rw [magnitude?_numeralOf_zero]
    rfl
  · rw [numeralOf, if_neg hz]
    rcases Nat.lt_or_ge (infiniteUnits * (2 ^ 54 - 8)) (m.val * 2 ^ 54) with hnear | hfar
    · obtain ⟨k, hk, rfl⟩ := exists_eq_beforeInfinity hfinite hnear
      rw [shortest_beforeInfinity k hk]
      exact isSome_magnitude?_beforeInfinity k hk negative
    · exact isSome_magnitude?_decimalNumeral (m.magnitudeOf_shortest .even) hfinite
        (shortest_ne_zero hz .even) (le_shortest .even m) hfar negative

/-- Where a finite number was written, a number is read. -/
theorem isSome_reread?_iff {x : Binary64} : (reread? x).isSome = true ↔ x.isFinite = true := by
  cases hx : x.isFinite with
  | false => simp [reread?_of_not_finite hx]
  | true =>
    cases x with
    | nan => cases hx
    | signed negative m =>
      have hm : m.isFinite = true := hx
      have h := isSome_magnitude?_numeralOf hm negative
      rw [← toBinary64?_numberValue, numberValue, if_pos hm, Value.toBinary64?,
        Numeral.toBinary64?, Option.isSome_map, h]

end PointSelect.Json
