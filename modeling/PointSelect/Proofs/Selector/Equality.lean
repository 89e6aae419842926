import PointSelect.Selector.Basic

namespace PointSelect

namespace Binary64

variable {x y z : Binary64}

theorem equal_self_iff : x.equal x = true ↔ x ≠ .nan := by
  cases x with
  | nan => simp [equal, compareKeys, key]
  | signed negative m => cases negative <;> simp [equal, compareKeys, key]

/-- Equal numbers have one place in the order. -/
theorem key_eq_of_equal (h : x.equal y = true) : x.key = y.key := by
  unfold equal compareKeys at h
  split at h
  · next a b hx hy => rw [hx, hy, of_decide_eq_true h]
  · cases h

/-- Comparisons see no more of a number than its place. -/
theorem compareKeys_congr {x' y' : Binary64} (hx : x.key = x'.key) (hy : y.key = y'.key)
    (r : Int → Int → Bool) : compareKeys r x y = compareKeys r x' y' := by
  rw [compareKeys, compareKeys, hx, hy]

theorem compareKeys_congr_left (h : x.equal y = true) (r : Int → Int → Bool) (z : Binary64) :
    compareKeys r x z = compareKeys r y z :=
  compareKeys_congr (key_eq_of_equal h) rfl r

theorem compareKeys_congr_right (h : x.equal y = true) (r : Int → Int → Bool) (z : Binary64) :
    compareKeys r z x = compareKeys r z y :=
  compareKeys_congr rfl (key_eq_of_equal h) r

theorem equal_symm (h : x.equal y = true) : y.equal x = true := by
  have hkey := key_eq_of_equal h
  rw [equal, compareKeys_congr hkey.symm hkey]
  exact h

theorem equal_trans (h : x.equal y = true) (h' : y.equal z = true) : x.equal z = true := by
  rw [equal, compareKeys_congr_left h]
  exact h'

end Binary64

namespace Interval

variable {r s t : Interval}

theorem equal_iff : r.equal s = true ↔ r.lo.equal s.lo = true ∧ r.hi.equal s.hi = true :=
  Bool.and_eq_true_iff

theorem equal_self_iff : r.equal r = true ↔ r.lo ≠ .nan ∧ r.hi ≠ .nan := by
  simp [equal, Binary64.equal_self_iff]

theorem equal_symm (h : r.equal s = true) : s.equal r = true := by
  obtain ⟨hlo, hhi⟩ := equal_iff.mp h
  exact equal_iff.mpr ⟨Binary64.equal_symm hlo, Binary64.equal_symm hhi⟩

theorem equal_trans (h : r.equal s = true) (h' : s.equal t = true) : r.equal t = true := by
  obtain ⟨hlo, hhi⟩ := equal_iff.mp h
  obtain ⟨hlo', hhi'⟩ := equal_iff.mp h'
  exact equal_iff.mpr ⟨Binary64.equal_trans hlo hlo', Binary64.equal_trans hhi hhi'⟩

theorem contains_eq_of_equal (h : r.equal s = true) (x : Binary64) :
    r.contains x = s.contains x := by
  obtain ⟨hlo, hhi⟩ := equal_iff.mp h
  have hlower : r.lo.le x = s.lo.le x := Binary64.compareKeys_congr_left hlo _ x
  have hupper : x.lt r.hi = x.lt s.hi := Binary64.compareKeys_congr_right hhi _ x
  rw [contains, contains, hlower, hupper]

theorem overlaps_eq_of_equal (h : r.equal s = true) (lower upper : Binary64) :
    r.overlaps lower upper = s.overlaps lower upper := by
  obtain ⟨hlo, hhi⟩ := equal_iff.mp h
  have hlower : r.lo.lt upper = s.lo.lt upper := Binary64.compareKeys_congr_left hlo _ upper
  have hupper : lower.le r.hi = lower.le s.hi := Binary64.compareKeys_congr_right hhi _ lower
  rw [overlaps, overlaps, hlower, hupper]

end Interval

namespace Selector

/-- The binary64 numbers that a selector compares with. -/
def numbers : Selector → List Binary64
  | unrestricted | index (.exact _) => []
  | position (.exact x) => [x]
  | index (.range r) | position (.range r) => [r.lo, r.hi]

/-- A selector equals itself unless one of its numbers is NaN. -/
theorem equal_self_iff {s : Selector} : s.equal s = true ↔ ∀ x ∈ s.numbers, x ≠ .nan := by
  cases s with
  | unrestricted => simp [equal, numbers]
  | index t =>
    cases t with
    | exact n => simp [equal, numbers]
    | range r => simp [equal, numbers, Interval.equal_self_iff]
  | position t =>
    cases t with
    | exact x => simp [equal, numbers, Binary64.equal_self_iff]
    | range r => simp [equal, numbers, Interval.equal_self_iff]

/-- Two selectors of one form with equal numbers. -/
inductive Agree : Selector → Selector → Prop where
  | unrestricted : Agree unrestricted unrestricted
  | indexExact (n : Int64) : Agree (index (.exact n)) (index (.exact n))
  | indexRange {r s : Interval} (bounds : r.equal s = true) :
    Agree (index (.range r)) (index (.range s))
  | positionExact {x y : Binary64} (value : x.equal y = true) :
    Agree (position (.exact x)) (position (.exact y))
  | positionRange {r s : Interval} (bounds : r.equal s = true) :
    Agree (position (.range r)) (position (.range s))

variable {s t u : Selector}

theorem equal_iff_agree : s.equal t = true ↔ Agree s t := by
  constructor
  · intro h
    unfold equal at h
    split at h
    · exact .unrestricted
    · rw [of_decide_eq_true h]
      exact .indexExact _
    · exact .indexRange h
    · exact .positionExact h
    · exact .positionRange h
    · cases h
  · intro h
    cases h with
    | unrestricted => rfl
    | indexExact n => exact decide_eq_true rfl
    | indexRange bounds => exact bounds
    | positionExact value => exact value
    | positionRange bounds => exact bounds

theorem Agree.symm (h : Agree s t) : Agree t s := by
  cases h with
  | unrestricted => exact .unrestricted
  | indexExact n => exact .indexExact n
  | indexRange bounds => exact .indexRange (Interval.equal_symm bounds)
  | positionExact value => exact .positionExact (Binary64.equal_symm value)
  | positionRange bounds => exact .positionRange (Interval.equal_symm bounds)

theorem Agree.trans (h : Agree s t) (h' : Agree t u) : Agree s u := by
  cases h with
  | unrestricted => exact h'
  | indexExact n => exact h'
  | indexRange bounds =>
    cases h' with
    | indexRange bounds' => exact .indexRange (Interval.equal_trans bounds bounds')
  | positionExact value =>
    cases h' with
    | positionExact value' => exact .positionExact (Binary64.equal_trans value value')
  | positionRange bounds =>
    cases h' with
    | positionRange bounds' => exact .positionRange (Interval.equal_trans bounds bounds')

/-- Selectors that agree accept the same points. -/
theorem Agree.accepts_eq (h : Agree s t) (p : Point) : s.accepts p = t.accepts p := by
  cases h with
  | unrestricted => rfl
  | indexExact n => rfl
  | indexRange bounds => exact Interval.contains_eq_of_equal bounds _
  | @positionExact x y value =>
    -- a number stands between the edges of a point as its place does
    have hlower : p.lower.le x = p.lower.le y := Binary64.compareKeys_congr_right value _ p.lower
    have hupper : x.lt p.upper = y.lt p.upper := Binary64.compareKeys_congr_left value _ p.upper
    rw [accepts, accepts, hlower, hupper]
  | positionRange bounds => exact Interval.overlaps_eq_of_equal bounds _ _

end Selector

end PointSelect
