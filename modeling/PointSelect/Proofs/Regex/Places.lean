import PointSelect.Regex.Places
import Mathlib.Data.Nat.Bitwise
import Mathlib.Logic.Function.Iterate

namespace PointSelect.Regex

namespace Places

/-- A place that belongs to a set. -/
def Has (s : Places) (i : Nat) : Prop := s.testBit i = true

/-- Every place of the first set is one of the second. -/
def Within (s t : Places) : Prop := ∀ i, s.Has i → t.Has i

theorem ne_zero_iff {s : Places} : s ≠ 0 ↔ ∃ i, s.Has i := by
  constructor
  · exact Nat.exists_testBit_of_ne_zero
  · rintro ⟨i, hi⟩ rfl
    simp [Has] at hi

theorem has_and_iff {s t : Places} {i : Nat} : Has (s &&& t) i ↔ s.Has i ∧ t.Has i := by
  simp [Has]

theorem has_or_iff {s t : Places} {i : Nat} : Has (s ||| t) i ↔ s.Has i ∨ t.Has i := by
  simp [Has]

theorem has_shiftLeft_one_iff {s : Places} {i : Nat} :
    Has (s <<< 1) i ↔ ∃ j, s.Has j ∧ i = j + 1 := by
  cases i with
  | zero => simp [Has]
  | succ i => simp [Has]

theorem has_all_iff {length i : Nat} : (all length).Has i ↔ i ≤ length := by
  have h : (all length).testBit i = decide (i < length + 1) :=
    Nat.testBit_two_pow_sub_one (length + 1) i
  rw [Has, h, decide_eq_true_iff, Nat.lt_succ_iff]

theorem has_one_iff {i : Nat} : Has 1 i ↔ i = 0 := by
  simp [Has, Nat.testBit_one_eq_true_iff_self_eq_zero]

theorem one_within_all (length : Nat) : Within 1 (all length) := by
  intro i hi
  rw [has_one_iff.mp hi, has_all_iff]
  exact Nat.zero_le length

section

variable {s s' t t' : Places}

theorem Within.and (h : Within s t) (mask : Places) : Within (s &&& mask) (t &&& mask) := by
  intro i hi
  obtain ⟨hs, hm⟩ := has_and_iff.mp hi
  exact has_and_iff.mpr ⟨h i hs, hm⟩

theorem Within.or (h : Within s t) (h' : Within s' t') : Within (s ||| s') (t ||| t') := by
  intro i hi
  exact has_or_iff.mpr ((has_or_iff.mp hi).imp (h i) (h' i))

theorem Within.shiftLeft_one (h : Within s t) : Within (s <<< 1) (t <<< 1) := by
  intro i hi
  obtain ⟨j, hj, he⟩ := has_shiftLeft_one_iff.mp hi
  exact has_shiftLeft_one_iff.mpr ⟨j, h j hj, he⟩

theorem Within.ne_zero (h : Within s t) (hs : s ≠ 0) : t ≠ 0 := by
  obtain ⟨i, hi⟩ := ne_zero_iff.mp hs
  exact ne_zero_iff.mpr ⟨i, h i hi⟩

end

end Places

namespace Plan

open Places

/-- Where nothing changes any more, applying `f` further changes nothing either. -/
theorem iterate_eq (f : Places → Places) (n : Nat) (s : Places) : iterate f n s = f^[n] s := by
  induction n generalizing s with
  | zero => rfl
  | succ n ih =>
    rw [iterate]
    split_ifs with h
    · exact (Function.iterate_fixed h (n + 1)).symm
    · rw [ih, Function.iterate_succ_apply]

theorem iterate_within {f : Places → Places} (hf : ∀ s t, Within s t → Within (f s) (f t)) (n : Nat)
    {s t : Places} (h : Within s t) : Within (iterate f n s) (iterate f n t) := by
  rw [iterate_eq, iterate_eq]
  induction n generalizing s t with
  | zero => exact h
  | succ n ih =>
    rw [Function.iterate_succ_apply, Function.iterate_succ_apply]
    exact ih (hf s t h)

/-- The more places a match may begin at, the more places it may end at. -/
theorem run_within (length : Nat) (p : Plan) {s t : Places} (h : Within s t) :
    Within (p.run length s) (p.run length t) := by
  induction p generalizing s t with
  | stay mask =>
    rw [run, run]
    exact h.and mask
  | step mask =>
    rw [run, run]
    exact (h.and mask).shiftLeft_one
  | seq a b iha ihb =>
    rw [run, run]
    exact ihb (iha h)
  | alt a b iha ihb =>
    rw [run, run]
    exact (iha h).or (ihb h)
  | repeated p min max ih =>
    have hone : ∀ s t, Within s t → Within (p.run length s) (p.run length t) := fun _ _ => ih
    have hmore : ∀ s t, Within s t → Within (s ||| p.run length s) (t ||| p.run length t) :=
      fun s t hst => hst.or (ih hst)
    simp only [run]
    exact iterate_within hmore _ (iterate_within hone min h)

end Plan

namespace Expr

/-- What matches at the start of a text matches somewhere in it. -/
theorem matchesAnywhere_of_matchesAtStart {e : Expr} {text : String}
    (h : e.matchesAtStart text = true) : e.matchesAnywhere text = true := by
  have hstart : (Plan.ofExpr text.toList e).run text.toList.length 1 ≠ 0 := bne_iff_ne.mp h
  have hwithin := Plan.run_within text.toList.length (Plan.ofExpr text.toList e)
    (Places.one_within_all text.toList.length)
  exact bne_iff_ne.mpr (hwithin.ne_zero hstart)

end Expr

end PointSelect.Regex
