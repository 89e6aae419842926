import PointSelect.Proofs.Number.Order
import PointSelect.Proofs.Selector.Grammar

namespace PointSelect.Selector

section

variable {p : Point} {x lo hi : Binary64}

theorem accepts_position_exact_iff :
    (position (.exact x)).accepts p = true ↔ p.lower.le x = true ∧ x.lt p.upper = true :=
  Bool.and_eq_true_iff

theorem accepts_position_range_iff : (position (.range ⟨lo, hi⟩)).accepts p = true ↔
    lo.lt p.upper = true ∧ p.lower.le hi = true :=
  Bool.and_eq_true_iff

/-- A range accepts a point that a position within its bounds is in. -/
theorem accepts_range_of_exact (hlo : lo.le x = true) (hhi : x.le hi = true)
    (h : (position (.exact x)).accepts p = true) :
    (position (.range ⟨lo, hi⟩)).accepts p = true := by
  obtain ⟨hlower, hupper⟩ := accepts_position_exact_iff.mp h
  apply accepts_position_range_iff.mpr
  exact ⟨Binary64.lt_of_le_of_lt hlo hupper, Binary64.le_trans hlower hhi⟩

/-- The greater one of the two lower bounds is a position in the range and in the point. -/
theorem exists_exact_of_accepts_range (hbounds : lo.le hi = true)
    (hpoint : p.lower.lt p.upper = true) (h : (position (.range ⟨lo, hi⟩)).accepts p = true) :
    ∃ x : Binary64, lo.le x = true ∧ x.le hi = true ∧
      (position (.exact x)).accepts p = true := by
  obtain ⟨hlo, hhi⟩ := accepts_position_range_iff.mp h
  have hlonan := (Binary64.ne_nan_of_compareKeys hlo).1
  have hlowernan := (Binary64.ne_nan_of_compareKeys hpoint).1
  rcases Binary64.le_or_lt hlowernan hlonan with hle | hlt
  · refine ⟨lo, Binary64.le_refl hlonan, hbounds, ?_⟩
    exact accepts_position_exact_iff.mpr ⟨hle, hlo⟩
  · refine ⟨p.lower, Binary64.le_of_lt hlt, hhi, ?_⟩
    exact accepts_position_exact_iff.mpr ⟨Binary64.le_refl hlowernan, hpoint⟩

/-- A range cut in two accepts what one of its parts does. A point need not have an inside for
that, only its edges in order. -/
theorem accepts_range_split {b : Binary64} (hlo : lo.le b = true) (hhi : b.le hi = true)
    (hpoint : p.lower.le p.upper = true) :
    (position (.range ⟨lo, hi⟩)).accepts p = true ↔
      (position (.range ⟨lo, b⟩)).accepts p = true ∨
        (position (.range ⟨b, hi⟩)).accepts p = true := by
  simp only [accepts_position_range_iff]
  constructor
  · rintro ⟨hupper, hlower⟩
    have hb := (Binary64.ne_nan_of_compareKeys hlo).2
    have hlowernan := (Binary64.ne_nan_of_compareKeys hpoint).1
    rcases Binary64.le_or_lt hlowernan hb with hle | hlt
    · exact .inl ⟨hupper, hle⟩
    · exact .inr ⟨Binary64.lt_of_lt_of_le hlt hpoint, hlower⟩
  · rintro (⟨hupper, hlower⟩ | ⟨hupper, hlower⟩)
    · exact ⟨hupper, Binary64.le_trans hlower hhi⟩
    · exact ⟨Binary64.lt_of_le_of_lt hlo hupper, hlower⟩

/-- One position is the range from it to itself, on every point. -/
theorem accepts_exact_eq_range (x : Binary64) (p : Point) :
    (position (.exact x)).accepts p = (position (.range ⟨x, x⟩)).accepts p :=
  Bool.and_comm _ _

end

/-- A number behind the marker is one position, and the number twice around a colon the range from
it to itself. -/
theorem parse_position_twice {token : String} {x : Binary64} (h : Binary64.read? token = some x)
    (policy : IndexPolicy) :
    parse .position policy token = .ok (.position (.exact x)) ∧
      parse .position policy (token ++ ":" ++ token) = .ok (.position (.range ⟨x, x⟩)) :=
  ⟨parse_number h .position policy, parse_bounds h h .position policy⟩

/-- A range of positions accepts what its positions accept one by one, on all points with the lower
edge below the upper one. Cut in two, it accepts what its parts do. One position and the range from
it to itself mean the same, on any point and for NaN too. -/
theorem positionRange_union :
    (∀ (lo hi : Binary64) (p : Point), lo.le hi = true → p.lower.lt p.upper = true →
      ((position (.range ⟨lo, hi⟩)).accepts p = true ↔
        ∃ x : Binary64, lo.le x = true ∧ x.le hi = true ∧
          (position (.exact x)).accepts p = true)) ∧
    (∀ (lo b hi : Binary64) (p : Point), lo.le b = true → b.le hi = true →
      p.lower.le p.upper = true →
      ((position (.range ⟨lo, hi⟩)).accepts p = true ↔
        (position (.range ⟨lo, b⟩)).accepts p = true ∨
          (position (.range ⟨b, hi⟩)).accepts p = true)) ∧
    (∀ (x : Binary64) (p : Point),
      (position (.exact x)).accepts p = (position (.range ⟨x, x⟩)).accepts p) ∧
    ∀ (token : String) (x : Binary64) (policy : IndexPolicy), Binary64.read? token = some x →
      parse .position policy token = .ok (.position (.exact x)) ∧
        parse .position policy (token ++ ":" ++ token) = .ok (.position (.range ⟨x, x⟩)) := by
  refine ⟨?_, ?_, accepts_exact_eq_range, ?_⟩
  · intro lo hi p hbounds hpoint
    constructor
    · exact exists_exact_of_accepts_range hbounds hpoint
    · rintro ⟨x, hlo, hhi, h⟩
      exact accepts_range_of_exact hlo hhi h
  · intro lo b hi p hlo hhi hpoint
    exact accepts_range_split hlo hhi hpoint
  · intro token x policy h
    exact parse_position_twice h policy

/-- A point that starts at zero, under ranges that end and start at the other zero. -/
theorem positionRange_union_zero :
    let p : Point := ⟨"/a", 0, .signed false .zero, .infinity⟩
    let b : Binary64 := .signed true .zero
    (∃ x : Binary64, Binary64.negInfinity.le x = true ∧ x.le b = true ∧
      (position (.exact x)).accepts p = true) ∧
    ((position (.range ⟨.negInfinity, b⟩)).accepts p = true ∨
      (position (.range ⟨b, .infinity⟩)).accepts p = true) ∧
    parse .position .reject "-0:-0" = .ok (.position (.range ⟨b, b⟩)) := by
  intro p b
  obtain ⟨hunion, hsplit, -, hparse⟩ := positionRange_union
  have hlo : Binary64.negInfinity.le b = true := by decide +kernel
  have hhi : b.le .infinity = true := by decide +kernel
  have hpoint : p.lower.lt p.upper = true := by decide +kernel
  have hrange : (position (.range ⟨.negInfinity, b⟩)).accepts p = true := by decide +kernel
  have hall : (position (.range ⟨.negInfinity, .infinity⟩)).accepts p = true := by decide +kernel
  have hread : Binary64.read? "-0" = some b := by decide +kernel
  refine ⟨(hunion _ _ p hlo hpoint).mp hrange, ?_, (hparse "-0" b .reject hread).2⟩
  exact (hsplit _ b _ p hlo hhi (Binary64.le_of_lt hpoint)).mp hall

end PointSelect.Selector
