import PointSelect.Proofs.Regex.Matches

namespace PointSelect.Regex

/-- So many matches of an expression, each of which begins where the one before it ends. -/
inductive Chain (cs : List Char) (e : Expr) : Nat → Nat → Nat → Prop where
  | none {i : Nat} (h : i ≤ cs.length) : Chain cs e 0 i i
  | more {n i j k : Nat} (h : Matches cs e i j) (rest : Chain cs e n j k) : Chain cs e (n + 1) i k

section

variable {cs : List Char} {e : Expr} {n i j k : Nat}

theorem Matches.start_le (h : Matches cs e i j) : i ≤ j := by
  induction h with
  | empty _ => exact Nat.le_refl _
  | char _ => exact Nat.le_succ _
  | set _ _ => exact Nat.le_succ _
  | look _ _ => exact Nat.le_refl _
  | seq _ _ iha ihb => exact Nat.le_trans iha ihb
  | altLeft _ ih => exact ih
  | altRight _ ih => exact ih
  | group _ ih => exact ih
  | repeatedNone _ => exact Nat.le_refl _
  | repeatedMore _ _ _ ih ihrest => exact Nat.le_trans ih ihrest

theorem chain_zero_iff : Chain cs e 0 i j ↔ j = i ∧ i ≤ cs.length := by
  constructor
  · intro h
    cases h with
    | none h => exact ⟨rfl, h⟩
  · rintro ⟨rfl, h⟩
    exact .none h

theorem chain_succ_iff : Chain cs e (n + 1) i k ↔ ∃ j, Matches cs e i j ∧ Chain cs e n j k := by
  constructor
  · intro h
    cases h with
    | more h rest => exact ⟨_, h, rest⟩
  · rintro ⟨j, h, rest⟩
    exact .more h rest

theorem Chain.start_le (h : Chain cs e n i j) : i ≤ j := by
  induction h with
  | none _ => exact Nat.le_refl _
  | more h _ ih => exact Nat.le_trans h.start_le ih

theorem Chain.le_length (h : Chain cs e n i j) : j ≤ cs.length := by
  induction h with
  | none h => exact h
  | more _ _ ih => exact ih

theorem Chain.append {m : Nat} (h : Chain cs e m i j) (h' : Chain cs e n j k) :
    Chain cs e (m + n) i k := by
  induction h with
  | none _ =>
    rw [Nat.zero_add]
    exact h'
  | more h _ ih =>
    rw [Nat.add_right_comm]
    exact .more h (ih h')

theorem Chain.split {m : Nat} (h : Chain cs e (m + n) i k) :
    ∃ j, Chain cs e m i j ∧ Chain cs e n j k := by
  induction m generalizing i with
  | zero =>
    rw [Nat.zero_add] at h
    exact ⟨i, .none (Nat.le_trans h.start_le h.le_length), h⟩
  | succ m ih =>
    rw [Nat.add_right_comm] at h
    obtain ⟨j, hone, hrest⟩ := chain_succ_iff.mp h
    obtain ⟨l, hfirst, hlast⟩ := ih hrest
    exact ⟨l, .more hone hfirst, hlast⟩

/-- The matches of a chain that take no character can be left out, and then it has no more of them
than it takes characters. -/
theorem Chain.shorten (h : Chain cs e n i j) : ∃ m, i + m ≤ j ∧ Chain cs e m i j := by
  induction h with
  | none h => exact ⟨0, Nat.le_refl _, .none h⟩
  | more h rest ih =>
    obtain ⟨m, hm, hchain⟩ := ih
    rcases Nat.eq_or_lt_of_le h.start_le with rfl | hlt
    · exact ⟨m, hm, hchain⟩
    · exact ⟨m + 1, by omega, .more h hchain⟩

/-- A chain counts on: what is left of the bounds after one match are the bounds of the rest. -/
theorem exists_chain_of_matches {min : Nat} {max : Option Nat}
    (h : Matches cs (.repeated e min max) i j) :
    ∃ n, min ≤ n ∧ (∀ m ∈ max, n ≤ m) ∧ Chain cs e n i j := by
  generalize hr : Expr.repeated e min max = r at h
  induction h generalizing min max with
  | repeatedNone h =>
    obtain ⟨rfl, rfl, rfl⟩ := Expr.repeated.inj hr
    exact ⟨0, Nat.le_refl 0, fun m _ => Nat.zero_le m, .none h⟩
  | repeatedMore hmax h _ _ ih =>
    obtain ⟨rfl, rfl, rfl⟩ := Expr.repeated.inj hr
    obtain ⟨n, hmin, hn, hchain⟩ := ih rfl
    refine ⟨n + 1, by omega, ?_, .more h hchain⟩
    rintro m rfl
    have hne : m ≠ 0 := fun h0 => hmax (congrArg some h0)
    have hle : n ≤ m - 1 := hn (m - 1) rfl
    omega
  | empty => cases hr
  | char => cases hr
  | set => cases hr
  | look => cases hr
  | seq => cases hr
  | altLeft => cases hr
  | altRight => cases hr
  | group => cases hr

theorem Chain.matches_repeated (h : Chain cs e n i j) {min : Nat} {max : Option Nat}
    (hmin : min ≤ n) (hmax : ∀ m ∈ max, n ≤ m) : Matches cs (.repeated e min max) i j := by
  induction h generalizing min max with
  | none h =>
    obtain rfl : min = 0 := Nat.le_zero.mp hmin
    exact .repeatedNone h
  | more h _ ih =>
    refine .repeatedMore ?_ h (ih (by omega) ?_)
    · rintro rfl
      exact absurd (hmax 0 rfl) (by omega)
    · intro m hm
      obtain ⟨m', hm', rfl⟩ := Option.map_eq_some_iff.mp hm
      have hle := hmax m' hm'
      omega

/-- A repetition matches by a chain whose length is within its bounds. -/
theorem matches_repeated_iff {min : Nat} {max : Option Nat} :
    Matches cs (.repeated e min max) i j ↔
      ∃ n, min ≤ n ∧ (∀ m ∈ max, n ≤ m) ∧ Chain cs e n i j := by
  constructor
  · exact exists_chain_of_matches
  · rintro ⟨n, hmin, hmax, h⟩
    exact h.matches_repeated hmin hmax

theorem matches_group_iff : Matches cs (.group e) i j ↔ Matches cs e i j := by
  constructor
  · intro h
    cases h with
    | group h => exact h
  · exact .group

end

end PointSelect.Regex
