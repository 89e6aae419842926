import PointSelect.Proofs.Regex.Ordered
import PointSelect.Proofs.Regex.Places
import PointSelect.Proofs.Regex.Repetition

namespace PointSelect.Regex

namespace Places

/-- A place whose neighbours pass the test, and no place beyond the end of the text. The induction
takes the text away from the front, where the character taken is the one before all others. -/
theorem has_suchThat_iff {test : Option Char → Option Char → Bool} {before : Option Char}
    {cs : List Char} {i : Nat} : (suchThat test before cs).Has i ↔
      i ≤ cs.length ∧ test (if i = 0 then before else cs[i - 1]?) cs[i]? = true := by
  induction cs generalizing before i with
  | nil =>
    rw [Has, suchThat, Nat.testBit_bool_toNat]
    cases i with
    | zero => simp
    | succ i => simp
  | cons c cs ih =>
    have hbit : suchThat test before (c :: cs) =
        Nat.bit (test before (some c)) (suchThat test (some c) cs) := (Nat.bit_val _ _).symm
    rw [Has, hbit]
    cases i with
    | zero => simp
    | succ i =>
      rw [Nat.testBit_bit_succ]
      have hrest := @ih (some c) i
      rw [Has] at hrest
      rw [hrest]
      cases i with
      | zero => simp
      | succ i => simp

/-- The test sees the characters around a place as a match does. -/
theorem has_suchThat_none_iff {test : Option Char → Option Char → Bool} {cs : List Char} {i : Nat} :
    (suchThat test none cs).Has i ↔ i ≤ cs.length ∧ test (charBefore cs i) cs[i]? = true :=
  has_suchThat_iff

end Places

namespace Plan

open Places

section

variable {cs : List Char} {e : Expr} {f : Places → Places}
  (hf : ∀ s j, Within s (all cs.length) → (Has (f s) j ↔ ∃ i, s.Has i ∧ Matches cs e i j))
include hf

theorem within_of_matches {s : Places} (hs : Within s (all cs.length)) :
    Within (f s) (all cs.length) := by
  intro j hj
  obtain ⟨i, -, h⟩ := (hf s j hs).mp hj
  exact has_all_iff.mpr h.le_length

/-- Where `f` finds the ends of one match, `n` times `f` finds those of a chain of `n`. -/
theorem has_iterate_iff (n : Nat) {s : Places} {j : Nat} (hs : Within s (all cs.length)) :
    Has (f^[n] s) j ↔ ∃ i, s.Has i ∧ Chain cs e n i j := by
  induction n generalizing s with
  | zero =>
    simp only [Function.iterate_zero_apply, chain_zero_iff]
    constructor
    · intro hj
      exact ⟨j, hj, rfl, has_all_iff.mp (hs j hj)⟩
    · rintro ⟨i, hi, rfl, -⟩
      exact hi
  | succ n ih =>
    rw [Function.iterate_succ_apply, ih (within_of_matches hf hs)]
    simp only [chain_succ_iff]
    constructor
    · rintro ⟨k, hk, hchain⟩
      obtain ⟨i, hi, h⟩ := (hf s k hs).mp hk
      exact ⟨i, hi, k, h, hchain⟩
    · rintro ⟨i, hi, k, h, hchain⟩
      exact ⟨k, (hf s k hs).mpr ⟨i, hi, h⟩, hchain⟩

theorem within_iterate (n : Nat) {s : Places} (hs : Within s (all cs.length)) :
    Within (f^[n] s) (all cs.length) := by
  intro j hj
  obtain ⟨i, -, h⟩ := (has_iterate_iff hf n hs).mp hj
  exact has_all_iff.mpr h.le_length

/-- Where each round keeps what it has, shorter chains count as well. -/
theorem has_iterate_keep_iff (n : Nat) {s : Places} {j : Nat} (hs : Within s (all cs.length)) :
    Has ((fun t => t ||| f t)^[n] s) j ↔ ∃ i, s.Has i ∧ ∃ m ≤ n, Chain cs e m i j := by
  induction n generalizing s with
  | zero =>
    have hzero := has_iterate_iff hf 0 (j := j) hs
    rw [Function.iterate_zero_apply] at hzero ⊢
    rw [hzero]
    simp only [Nat.le_zero, exists_eq_left]
  | succ n ih =>
    have hkeep : Within (s ||| f s) (all cs.length) := by
      intro k hk
      exact (has_or_iff.mp hk).elim (hs k) (within_of_matches hf hs k)
    rw [Function.iterate_succ_apply, ih hkeep]
    constructor
    · rintro ⟨k, hk, m, hm, hchain⟩
      rcases has_or_iff.mp hk with hk | hk
      · exact ⟨k, hk, m, by omega, hchain⟩
      · obtain ⟨i, hi, h⟩ := (hf s k hs).mp hk
        exact ⟨i, hi, m + 1, by omega, .more h hchain⟩
    · rintro ⟨i, hi, m, hm, hchain⟩
      cases hchain with
      | none h => exact ⟨j, has_or_iff.mpr (.inl hi), 0, Nat.zero_le n, .none h⟩
      | more h rest =>
        exact ⟨_, has_or_iff.mpr (.inr ((hf s _ hs).mpr ⟨i, hi, h⟩)), _, by omega, rest⟩

/-- As many rounds as the text has places are enough for chains of every length. -/
theorem has_iterate_all_iff {s : Places} {j : Nat} (hs : Within s (all cs.length)) :
    Has ((fun t => t ||| f t)^[cs.length + 1] s) j ↔ ∃ i, s.Has i ∧ ∃ n, Chain cs e n i j := by
  rw [has_iterate_keep_iff hf _ hs]
  constructor
  · rintro ⟨i, hi, n, -, h⟩
    exact ⟨i, hi, n, h⟩
  · rintro ⟨i, hi, n, h⟩
    obtain ⟨m, hm, hchain⟩ := h.shorten
    have hle := hchain.le_length
    exact ⟨i, hi, m, by omega, hchain⟩

/-- After a chain of the least length every longer one goes on from where it ends. -/
theorem has_iterate_unbounded_iff (min : Nat) {s : Places} {j : Nat}
    (hs : Within s (all cs.length)) :
    Has (iterate (fun t => t ||| f t) (cs.length + 1) (iterate f min s)) j ↔
      ∃ i, s.Has i ∧ Matches cs (.repeated e min none) i j := by
  rw [iterate_eq, iterate_eq, has_iterate_all_iff hf (within_iterate hf min hs)]
  simp only [has_iterate_iff hf min hs, matches_repeated_iff]
  constructor
  · rintro ⟨k, ⟨i, hi, hfirst⟩, n, hrest⟩
    exact ⟨i, hi, min + n, Nat.le_add_right _ _, by simp, hfirst.append hrest⟩
  · rintro ⟨i, hi, n, hn, -, hchain⟩
    obtain ⟨n, rfl⟩ := Nat.exists_eq_add_of_le hn
    obtain ⟨k, hfirst, hrest⟩ := hchain.split
    exact ⟨k, ⟨i, hi, hfirst⟩, n, hrest⟩

/-- So it is up to a greatest length, which must not be below the least one. -/
theorem has_iterate_bounded_iff {min max : Nat} (hle : min ≤ max) {s : Places} {j : Nat}
    (hs : Within s (all cs.length)) :
    Has (iterate (fun t => t ||| f t) (max - min) (iterate f min s)) j ↔
      ∃ i, s.Has i ∧ Matches cs (.repeated e min (some max)) i j := by
  rw [iterate_eq, iterate_eq, has_iterate_keep_iff hf _ (within_iterate hf min hs)]
  simp only [has_iterate_iff hf min hs, matches_repeated_iff]
  constructor
  · rintro ⟨k, ⟨i, hi, hfirst⟩, n, hn, hrest⟩
    refine ⟨i, hi, min + n, Nat.le_add_right _ _, ?_, hfirst.append hrest⟩
    rintro m ⟨⟩
    omega
  · rintro ⟨i, hi, n, hn, hmax, hchain⟩
    obtain ⟨n, rfl⟩ := Nat.exists_eq_add_of_le hn
    obtain ⟨k, hfirst, hrest⟩ := hchain.split
    have hbound : min + n ≤ max := hmax max rfl
    exact ⟨k, ⟨i, hi, hfirst⟩, n, by omega, hrest⟩

end

/-- Run from some places, a plan finds those where a match from one of them ends. -/
theorem has_run_iff {cs : List Char} {e : Expr} (he : e.Ordered) {s : Places} {j : Nat}
    (hs : Within s (all cs.length)) :
    Has ((ofExpr cs e).run cs.length s) j ↔ ∃ i, s.Has i ∧ Matches cs e i j := by
  induction e generalizing s j with
  | empty =>
    rw [ofExpr, run, has_and_iff, has_all_iff]
    simp only [matches_empty_iff]
    constructor
    · rintro ⟨hj, hle⟩
      exact ⟨j, hj, rfl, hle⟩
    · rintro ⟨i, hi, rfl, hle⟩
      exact ⟨hi, hle⟩
  | char c =>
    rw [ofExpr, run, has_shiftLeft_one_iff]
    simp only [has_and_iff, has_suchThat_none_iff]
    constructor
    · rintro ⟨i, ⟨hi, -, hc⟩, rfl⟩
      exact ⟨i, hi, .char (beq_iff_eq.mp hc)⟩
    · rintro ⟨i, hi, h⟩
      have hle := h.start_le.trans h.le_length
      cases h with
      | char h => exact ⟨i, ⟨hi, hle, beq_iff_eq.mpr h⟩, rfl⟩
  | set t =>
    rw [ofExpr, run, has_shiftLeft_one_iff]
    simp only [has_and_iff, has_suchThat_none_iff, Option.any_eq_true]
    constructor
    · rintro ⟨i, ⟨hi, -, c, hc, ht⟩, rfl⟩
      exact ⟨i, hi, .set hc ht⟩
    · rintro ⟨i, hi, h⟩
      have hle := h.start_le.trans h.le_length
      cases h with
      | set h ht => exact ⟨i, ⟨hi, hle, _, h, ht⟩, rfl⟩
  | look l =>
    rw [ofExpr, run, has_and_iff, has_suchThat_none_iff]
    constructor
    · rintro ⟨hj, hle, hl⟩
      exact ⟨j, hj, .look hle hl⟩
    · rintro ⟨i, hi, h⟩
      cases h with
      | look hle hl => exact ⟨hi, hle, hl⟩
  | seq a b iha ihb =>
    obtain ⟨ha, hb⟩ := he
    have hmid : Within ((ofExpr cs a).run cs.length s) (all cs.length) :=
      within_of_matches (fun s j hs => iha ha hs) hs
    rw [ofExpr, run, ihb hb hmid]
    simp only [iha ha hs, matches_seq_iff]
    constructor
    · rintro ⟨k, ⟨i, hi, h⟩, h'⟩
      exact ⟨i, hi, k, h, h'⟩
    · rintro ⟨i, hi, k, h, h'⟩
      exact ⟨k, ⟨i, hi, h⟩, h'⟩
  | alt a b iha ihb =>
    obtain ⟨ha, hb⟩ := he
    rw [ofExpr, run, has_or_iff, iha ha hs, ihb hb hs]
    simp only [matches_alt_iff, and_or_left, exists_or]
  | group e ih =>
    rw [ofExpr, ih he hs]
    simp only [matches_group_iff]
  | repeated e min max ih =>
    obtain ⟨he, hle⟩ := he
    cases max with
    | none =>
      simp only [ofExpr, run]
      exact has_iterate_unbounded_iff (fun _ _ hs => ih he hs) min hs
    | some max =>
      simp only [ofExpr, run]
      exact has_iterate_bounded_iff (fun _ _ hs => ih he hs) (hle max rfl) hs

end Plan

namespace Expr

open Places

variable {e : Expr}

theorem matchesAtStart_iff (he : e.Ordered) (text : String) :
    e.matchesAtStart text = true ↔ ∃ j, Matches text.toList e 0 j := by
  have hrun := @Plan.has_run_iff text.toList e he 1
  rw [matchesAtStart, bne_iff_ne, ne_zero_iff]
  simp only [hrun (one_within_all _), has_one_iff, exists_eq_left]

theorem matchesAnywhere_iff (he : e.Ordered) (text : String) :
    e.matchesAnywhere text = true ↔ ∃ i j, Matches text.toList e i j := by
  have hrun := @Plan.has_run_iff text.toList e he (all text.toList.length)
  rw [matchesAnywhere, bne_iff_ne, ne_zero_iff]
  simp only [hrun fun _ hi => hi, has_all_iff]
  constructor
  · rintro ⟨j, i, -, h⟩
    exact ⟨i, j, h⟩
  · rintro ⟨i, j, h⟩
    exact ⟨j, i, h.start_le.trans h.le_length, h⟩

end Expr

end PointSelect.Regex
