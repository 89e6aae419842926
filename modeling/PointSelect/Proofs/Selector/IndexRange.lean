import PointSelect.Proofs.Number.Order
import PointSelect.Selector.Parser

namespace PointSelect

/-- A bin index is a finite number after rounding. -/
theorem Binary64.isFinite_ofInt_index (n : Int64) : (ofInt n.toInt).isFinite = true := by
  have hmin := n.le_toInt
  have hmax := n.toInt_lt
  exact (ofInt_nearest (by omega)).1

/-- Bin indices keep their order when they are rounded. -/
theorem Binary64.ofInt_index_le {m n : Int64} (h : m ≤ n) :
    (ofInt m.toInt).le (ofInt n.toInt) = true := by
  refine ofInt_le_ofInt ⟨m.le_toInt, m.toInt_lt⟩ ⟨n.le_toInt, n.toInt_lt⟩ ?_
  exact Int64.le_iff_toInt_le.mp h

namespace Interval

variable {r : Interval} {a b c x y z : Binary64}

theorem contains_iff : r.contains x = true ↔ r.lo.le x = true ∧ x.lt r.hi = true :=
  Bool.and_eq_true_iff

theorem contains_eq_false_of_lt_lo (h : x.lt r.lo = true) : r.contains x = false := by
  rw [← Bool.not_eq_true, contains_iff]
  exact fun hx => Binary64.not_lt_of_le hx.1 h

theorem contains_eq_false_of_hi_le (h : r.hi.le x = true) : r.contains x = false := by
  rw [← Bool.not_eq_true, contains_iff]
  exact fun hx => Binary64.not_lt_of_le h hx.2

/-- A number between the bounds of a cut interval is in one of the parts and not in the other. -/
theorem contains_split (hab : a.le b = true) (hbc : b.le c = true) (hx : x ≠ .nan) :
    contains ⟨a, c⟩ x = (contains ⟨a, b⟩ x ^^ contains ⟨b, c⟩ x) := by
  have hb := (Binary64.ne_nan_of_compareKeys hab).2
  rcases Binary64.le_or_lt hb hx with hle | hlt
  · -- from the cut on only the upper part counts
    have hlow : contains ⟨a, b⟩ x = false := contains_eq_false_of_hi_le hle
    have hstart := Binary64.le_trans hab hle
    rw [hlow, Bool.false_xor, contains, contains, hstart, hle]
  · have hhigh : contains ⟨b, c⟩ x = false := contains_eq_false_of_lt_lo hlt
    have hend := Binary64.lt_of_lt_of_le hlt hbc
    rw [hhigh, Bool.xor_false, contains, contains, hlt, hend]

/-- What lies between two numbers of an interval belongs to it. -/
theorem contains_between (hx : r.contains x = true) (hz : r.contains z = true)
    (hxy : x.le y = true) (hyz : y.le z = true) : r.contains y = true := by
  have hlo := Binary64.le_trans (contains_iff.mp hx).1 hxy
  have hhi := Binary64.lt_of_le_of_lt hyz (contains_iff.mp hz).2
  exact contains_iff.mpr ⟨hlo, hhi⟩

/-- An interval with a number in it has numbers in rising order for its bounds. -/
theorem lt_of_contains (h : r.contains x = true) : r.lo.lt r.hi = true :=
  Binary64.lt_of_le_of_lt (contains_iff.mp h).1 (contains_iff.mp h).2

theorem contains_unbounded (h : x.isFinite = true) : unbounded.contains x = true := by
  apply contains_iff.mpr
  exact ⟨Binary64.negInfinity_le (Binary64.ne_nan_of_isFinite h), Binary64.lt_infinity h⟩

end Interval

namespace Selector

theorem accepts_index_range (r : Interval) (p : Point) :
    (index (.range r)).accepts p = r.contains (.ofInt p.index.toInt) := rfl

theorem accepts_index_split {a b c : Binary64} (hab : a.le b = true) (hbc : b.le c = true)
    (p : Point) : (index (.range ⟨a, c⟩)).accepts p =
      ((index (.range ⟨a, b⟩)).accepts p ^^ (index (.range ⟨b, c⟩)).accepts p) := by
  have hindex := Binary64.ne_nan_of_isFinite (Binary64.isFinite_ofInt_index p.index)
  simp only [accepts_index_range]
  exact Interval.contains_split hab hbc hindex

/-- No index between two that are accepted is left out, however many of them are one number. -/
theorem accepts_index_between {r : Interval} {p q s : Point} (hpq : p.index ≤ q.index)
    (hqs : q.index ≤ s.index) (hp : (index (.range r)).accepts p = true)
    (hs : (index (.range r)).accepts s = true) : (index (.range r)).accepts q = true := by
  rw [accepts_index_range] at hp hs ⊢
  exact Interval.contains_between hp hs (Binary64.ofInt_index_le hpq) (Binary64.ofInt_index_le hqs)

/-- Bounds that are not two numbers in rising order leave nothing to accept. -/
theorem not_accepts_index_of_bounds {r : Interval}
    (h : r.lo = .nan ∨ r.hi = .nan ∨ r.hi.le r.lo = true) (p : Point) :
    (index (.range r)).accepts p = false := by
  rw [accepts_index_range, ← Bool.not_eq_true]
  intro haccepts
  have hlt := Interval.lt_of_contains haccepts
  rcases h with hlo | hhi | hle
  · exact (Binary64.ne_nan_of_compareKeys hlt).1 hlo
  · exact (Binary64.ne_nan_of_compareKeys hlt).2 hhi
  · exact Binary64.not_lt_of_le hle hlt

/-- Two ranges of bin indices that meet at a bound divide what the range over both accepts: each
index falls to one of them. With two indices a range accepts all those between them, and it accepts
none at all unless its bounds are two numbers in rising order. The colon alone accepts every
point. -/
theorem indexRange_partition :
    (∀ (a b c : Binary64) (p : Point), a.le b = true → b.le c = true →
      (index (.range ⟨a, c⟩)).accepts p =
        ((index (.range ⟨a, b⟩)).accepts p ^^ (index (.range ⟨b, c⟩)).accepts p)) ∧
    (∀ (r : Interval) (p q s : Point), p.index ≤ q.index → q.index ≤ s.index →
      (index (.range r)).accepts p = true → (index (.range r)).accepts s = true →
      (index (.range r)).accepts q = true) ∧
    (∀ (r : Interval) (p : Point), r.lo = .nan ∨ r.hi = .nan ∨ r.hi.le r.lo = true →
      (index (.range r)).accepts p = false) ∧
    (∀ policy : IndexPolicy, parse .index policy ":" = .ok (index (.range .unbounded))) ∧
    ∀ p : Point, (index (.range .unbounded)).accepts p = true := by
  refine ⟨?_, ?_, ?_, fun _ => rfl, ?_⟩
  · intro a b c p hab hbc
    exact accepts_index_split hab hbc p
  · intro r p q s hpq hqs hp hs
    exact accepts_index_between hpq hqs hp hs
  · intro r p h
    exact not_accepts_index_of_bounds h p
  · intro p
    exact Interval.contains_unbounded (Binary64.isFinite_ofInt_index p.index)

/-- The middle one of three indices that are rounded to two numbers, under ranges that meet at the
greater number, and a range with its bounds the wrong way round. -/
theorem indexRange_partition_rounded :
    let point (n : Int64) : Point := ⟨"/a", n, .signed false .zero, .infinity⟩
    let lo : Binary64 := .ofInt (2 ^ 53)
    let b : Binary64 := .ofInt (2 ^ 53 + 2)
    (index (.range ⟨lo, .infinity⟩)).accepts (point 9007199254740993) =
      ((index (.range ⟨lo, b⟩)).accepts (point 9007199254740993) ^^
        (index (.range ⟨b, .infinity⟩)).accepts (point 9007199254740993)) ∧
    (index (.range ⟨lo, .infinity⟩)).accepts (point 9007199254740993) = true ∧
    (index (.range ⟨b, lo⟩)).accepts (point 9007199254740993) = false := by
  intro point lo b
  obtain ⟨hsplit, hbetween, hbounds, -⟩ := indexRange_partition
  have hlo : lo.le b = true := by decide +kernel
  have hhi : b.le .infinity = true := by decide +kernel
  have hfirst : (index (.range ⟨lo, .infinity⟩)).accepts (point 9007199254740992) = true := by
    decide +kernel
  have hlast : (index (.range ⟨lo, .infinity⟩)).accepts (point 9007199254740994) = true := by
    decide +kernel
  refine ⟨hsplit lo b .infinity _ hlo hhi, ?_, hbounds ⟨b, lo⟩ _ (.inr (.inr hlo))⟩
  exact hbetween _ (point 9007199254740992) _ (point 9007199254740994) (by decide) (by decide)
    hfirst hlast

end Selector

end PointSelect
