import PointSelect.Regex.Matches
import Mathlib.Data.List.Basic
import Mathlib.Data.Nat.Find

namespace PointSelect.Regex

/-- A match that begins first in the text, and of those the longest. -/
structure IsLeftmost (cs : List Char) (e : Expr) (i j : Nat) : Prop where
  found : Matches cs e i j
  first : ∀ i' j', Matches cs e i' j' → i ≤ i'
  longest : ∀ j', Matches cs e i j' → j' ≤ j

section

variable {cs : List Char} {i j : Nat}

theorem Matches.le_length {e : Expr} (h : Matches cs e i j) : j ≤ cs.length := by
  have hnext : ∀ {k : Nat} {c : Char}, cs[k]? = some c → k + 1 ≤ cs.length := by
    intro k c hc
    obtain ⟨hk, -⟩ := List.getElem?_eq_some_iff.mp hc
    exact hk
  induction h with
  | empty h => exact h
  | char h => exact hnext h
  | set h _ => exact hnext h
  | look h _ => exact h
  | seq _ _ _ ihb => exact ihb
  | altLeft _ ih => exact ih
  | altRight _ ih => exact ih
  | group _ ih => exact ih
  | repeatedNone h => exact h
  | repeatedMore _ _ _ _ ih => exact ih

theorem exists_isLeftmost {e : Expr} (h : Matches cs e i j) : ∃ i j, IsLeftmost cs e i j := by
  classical
  have hstart : ∃ i j, Matches cs e i j := ⟨i, j, h⟩
  obtain ⟨k, hk⟩ := Nat.find_spec hstart
  have hend := Nat.findGreatest_spec (P := fun k => Matches cs e (Nat.find hstart) k) hk.le_length hk
  refine ⟨_, _, hend, ?_, ?_⟩
  · intro i' j' h'
    exact Nat.find_min' hstart ⟨j', h'⟩
  · intro j' h'
    exact Nat.le_findGreatest h'.le_length h'

theorem getElem?_eq_some_iff_split {c : Char} :
    cs[i]? = some c ↔ ∃ a b, cs = a ++ c :: b ∧ a.length = i := by
  constructor
  · intro h
    obtain ⟨hi, rfl⟩ := List.getElem?_eq_some_iff.mp h
    refine ⟨cs.take i, cs.drop (i + 1), ?_, ?_⟩
    · rw [← List.drop_eq_getElem_cons hi, List.take_append_drop]
    · rw [List.length_take, Nat.min_eq_left (Nat.le_of_lt hi)]
  · rintro ⟨a, b, rfl, rfl⟩
    simp

theorem matches_char_iff {c : Char} :
    Matches cs (.char c) i j ↔ ∃ a b, cs = a ++ c :: b ∧ a.length = i ∧ j = i + 1 := by
  constructor
  · intro h
    cases h with
    | char h =>
      obtain ⟨a, b, hcs, ha⟩ := getElem?_eq_some_iff_split.mp h
      exact ⟨a, b, hcs, ha, rfl⟩
  · rintro ⟨a, b, hcs, ha, rfl⟩
    exact .char (getElem?_eq_some_iff_split.mpr ⟨a, b, hcs, ha⟩)

/-- Only at the very start is there no character before. -/
theorem matches_textStart_iff : Matches cs (.look .textStart) i j ↔ i = 0 ∧ j = 0 := by
  constructor
  · intro h
    cases h with
    | look h hl =>
      have hi : i = 0 := by
        by_contra hne
        have hlt : i - 1 < cs.length := by omega
        rw [charBefore, if_neg hne, List.getElem?_eq_getElem hlt] at hl
        cases hl
      exact ⟨hi, hi⟩
  · rintro ⟨rfl, rfl⟩
    exact .look (Nat.zero_le _) rfl

theorem matches_seq_iff {a b : Expr} :
    Matches cs (.seq a b) i j ↔ ∃ k, Matches cs a i k ∧ Matches cs b k j := by
  constructor
  · intro h
    cases h with
    | seq ha hb => exact ⟨_, ha, hb⟩
  · rintro ⟨k, ha, hb⟩
    exact .seq ha hb

theorem matches_alt_iff {a b : Expr} :
    Matches cs (.alt a b) i j ↔ Matches cs a i j ∨ Matches cs b i j := by
  constructor
  · intro h
    cases h with
    | altLeft h => exact .inl h
    | altRight h => exact .inr h
  · rintro (h | h)
    · exact .altLeft h
    · exact .altRight h

theorem matches_empty_iff : Matches cs .empty i j ↔ j = i ∧ i ≤ cs.length := by
  constructor
  · intro h
    cases h with
    | empty h => exact ⟨rfl, h⟩
  · rintro ⟨rfl, h⟩
    exact .empty h

theorem matches_set_iff {s : Unicode.CharSet} : Matches cs (.set s) i j ↔
    ∃ a c b, cs = a ++ c :: b ∧ a.length = i ∧ j = i + 1 ∧ s.contains c = true := by
  constructor
  · intro h
    cases h with
    | set h hs =>
      obtain ⟨a, b, hcs, ha⟩ := getElem?_eq_some_iff_split.mp h
      exact ⟨a, _, b, hcs, ha, rfl, hs⟩
  · rintro ⟨a, c, b, hcs, ha, rfl, hs⟩
    exact .set (getElem?_eq_some_iff_split.mpr ⟨a, b, hcs, ha⟩) hs

/-- What a repeated set matches is a run of its characters. The induction is on the match, of which
each step takes one character. -/
theorem exists_run_of_repeated {s : Unicode.CharSet} {min : Nat}
    (h : Matches cs (.repeated (.set s) min none) i j) :
    ∃ a w b, cs = a ++ (w ++ b) ∧ a.length = i ∧ i + w.length = j ∧ min ≤ w.length ∧
      ∀ c ∈ w, s.contains c = true := by
  generalize he : Expr.repeated (.set s) min none = e at h
  induction h generalizing min with
  | @repeatedNone i e max h =>
    obtain ⟨-, rfl, -⟩ := Expr.repeated.inj he
    refine ⟨cs.take i, [], cs.drop i, ?_, ?_, rfl, Nat.le_refl 0, by simp⟩
    · exact (List.take_append_drop i cs).symm
    · exact List.length_take_of_le h
  | repeatedMore hmax hone rest _ ih =>
    obtain ⟨rfl, rfl, rfl⟩ := Expr.repeated.inj he
    obtain ⟨a, c, b, hcs, ha, rfl, hc⟩ := matches_set_iff.mp hone
    obtain ⟨a', w, b', hcs', ha', hj, hmin, hw⟩ := ih rfl
    -- both ways to cut the text put the character in front of the run
    have hleft : a ++ [c] = a' := by
      have heq : (a ++ [c]) ++ b = a' ++ (w ++ b') := by
        rw [← hcs', hcs, List.append_assoc]
        rfl
      exact (List.append_inj heq (by simp [ha, ha'])).1
    refine ⟨a, c :: w, b', ?_, ha, ?_, ?_, List.forall_mem_cons.mpr ⟨hc, hw⟩⟩
    · rw [hcs', ← hleft, List.append_assoc]
      rfl
    · rw [List.length_cons]
      omega
    · rw [List.length_cons]
      omega
  | empty => cases he
  | char => cases he
  | set => cases he
  | look => cases he
  | seq => cases he
  | altLeft => cases he
  | altRight => cases he
  | group => cases he

theorem matches_run {s : Unicode.CharSet} (a : List Char) {w : List Char} (b : List Char) {min : Nat}
    (hmin : min ≤ w.length) (hw : ∀ c ∈ w, s.contains c = true) :
    Matches (a ++ (w ++ b)) (.repeated (.set s) min none) a.length (a.length + w.length) := by
  induction w generalizing a min with
  | nil =>
    obtain rfl : min = 0 := Nat.le_zero.mp hmin
    exact .repeatedNone (by simp)
  | cons c w ih =>
    obtain ⟨hc, hw⟩ := List.forall_mem_cons.mp hw
    have hone : Matches (a ++ (c :: w ++ b)) (.set s) a.length (a.length + 1) :=
      matches_set_iff.mpr ⟨a, c, w ++ b, rfl, rfl, rfl, hc⟩
    have hmin' : min - 1 ≤ w.length := by
      rw [List.length_cons] at hmin
      omega
    have hrest := ih (a ++ [c]) hmin' hw
    rw [List.append_assoc, List.length_append] at hrest
    refine .repeatedMore (by simp) hone ?_
    rw [List.length_cons, Nat.add_comm w.length, ← Nat.add_assoc]
    exact hrest

/-- A repeated set matches every run of its characters that is long enough, and nothing else. -/
theorem matches_repeated_set_iff {s : Unicode.CharSet} {min : Nat} :
    Matches cs (.repeated (.set s) min none) i j ↔ ∃ a w b, cs = a ++ (w ++ b) ∧ a.length = i ∧
      i + w.length = j ∧ min ≤ w.length ∧ ∀ c ∈ w, s.contains c = true := by
  constructor
  · exact exists_run_of_repeated
  · rintro ⟨a, w, b, rfl, rfl, rfl, hmin, hw⟩
    exact matches_run a b hmin hw

end

end PointSelect.Regex
