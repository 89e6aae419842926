import PointSelect.Proofs.Selector.Grammar
import PointSelect.Proofs.Selector.IndexRange

namespace PointSelect

namespace Interval

/-- What is rounded into the range from a number to the next integer is that number, so far as both
are numbers without rounding. -/
theorem contains_unit_iff {k : Int} (hk : k.natAbs < 2 ^ 53) (n : Int64) :
    contains ⟨.ofInt k, .ofInt (k + 1)⟩ (.ofInt n.toInt) = true ↔ n.toInt = k := by
  have hmin := n.le_toInt
  have hmax := n.toInt_lt
  obtain ⟨hfinite, m, hm, hnear⟩ := Binary64.ofInt_nearest (n := n.toInt) (by omega)
  obtain ⟨hlo, hlower⟩ := Binary64.toRat_ofInt (n := k) (by omega)
  obtain ⟨hhi, hupper⟩ := Binary64.toRat_ofInt (n := k + 1) (by omega)
  rw [contains_iff, Binary64.le_iff_toRat_le hlo hfinite, Binary64.lt_iff_toRat_lt hfinite hhi,
    hlower, hm, hupper, Int.cast_le, Int.cast_lt, ← hnear.eq_iff_of_natAbs_lt hk]
  omega

end Interval

namespace Selector

theorem accepts_index_exact_iff {n : Int64} {p : Point} :
    (index (.exact n)).accepts p = true ↔ p.index = n :=
  decide_eq_true_iff

/-- One index below 2⁵³ accepts the points of that index, and means the same as the range from it to
the next one: also where the index of a point is rounded before it is compared. -/
theorem exact_index_eq_unit_range {k : Int} (hk : k.natAbs < 2 ^ 53) (policy : IndexPolicy) :
    let decimal (n : Int) := String.ofList (writeInt n)
    ∃ (n : Int64) (r : Interval), n.toInt = k ∧
      parse .index policy (decimal k) = .ok (.index (.exact n)) ∧
      parse .index policy (decimal k ++ ":" ++ decimal (k + 1)) = .ok (.index (.range r)) ∧
      ∀ p, ((index (.exact n)).accepts p = true ↔ p.index.toInt = k) ∧
        (index (.exact n)).accepts p = (index (.range r)).accepts p := by
  intro decimal
  obtain ⟨hfinite, hk'⟩ := Binary64.toRat_ofInt (n := k) (by omega)
  have hword : InInt64 k := by
    unfold InInt64
    omega
  obtain ⟨n, hn, hexact⟩ := exactIndex_of_intCast policy hfinite hk' hword
  refine ⟨n, ⟨.ofInt k, .ofInt (k + 1)⟩, hn, ?_, ?_, ?_⟩
  · rw [parse_number (Binary64.read?_writeInt k), hexact]
    rfl
  · exact parse_bounds (Binary64.read?_writeInt k) (Binary64.read?_writeInt (k + 1)) .index policy
  · intro p
    have hpoint : (index (.exact n)).accepts p = true ↔ p.index.toInt = k := by
      rw [accepts_index_exact_iff, ← hn, Int64.toInt_inj]
    refine ⟨hpoint, ?_⟩
    rw [Bool.eq_iff_iff, hpoint, accepts_index_range, Interval.contains_unit_iff hk]

/-- The last such index, and a point with an index that is rounded to the bound behind it. -/
theorem exact_index_eq_unit_range_last :
    let p : Point := ⟨"/a", 9007199254740993, .signed false .zero, .infinity⟩
    ∃ (n : Int64) (r : Interval), n = 9007199254740991 ∧
      parse .index .reject "9007199254740991" = .ok (.index (.exact n)) ∧
      parse .index .reject "9007199254740991:9007199254740992" = .ok (.index (.range r)) ∧
      (index (.exact n)).accepts p = (index (.range r)).accepts p := by
  intro p
  obtain ⟨n, r, hn, hexact, hrange, haccepts⟩ :=
    exact_index_eq_unit_range (k := 9007199254740991) (by decide) .reject
  have hlower : String.ofList (writeInt 9007199254740991) = "9007199254740991" := by decide
  have hupper : String.ofList (writeInt (9007199254740991 + 1)) = "9007199254740992" := by decide
  simp only [hlower, hupper] at hexact hrange
  exact ⟨n, r, Int64.toInt_inj.mp hn, hexact, hrange, (haccepts p).2⟩

/-- From 2⁵³ on there are ranges of this form without anything in them. -/
example : parse .index .reject "9007199254740992:9007199254740993" =
    .ok (.index (.range ⟨.ofInt (2 ^ 53), .ofInt (2 ^ 53)⟩)) := by decide +kernel

end Selector

end PointSelect
