import PointSelect.Proofs.Selector.Grammar
import PointSelect.Proofs.Selector.Reading

namespace PointSelect

namespace Binary64

/-- A finite number that is no integer. -/
structure HasFraction (x : Binary64) : Prop where
  finite : x.isFinite = true
  fraction : Int.fract x.toRat ≠ 0

theorem hasFraction_iff {x : Binary64} :
    x.HasFraction ↔ x.isFinite = true ∧ x.isWhole = false := by
  constructor
  · rintro ⟨hfinite, hfract⟩
    refine ⟨hfinite, Bool.eq_false_iff.mpr ?_⟩
    intro hwhole
    obtain ⟨n, hn⟩ := (isWhole_iff hfinite).mp hwhole
    rw [hn, Int.fract_intCast] at hfract
    exact hfract rfl
  · rintro ⟨hfinite, hwhole⟩
    refine ⟨hfinite, ?_⟩
    intro hfract
    obtain ⟨n, hn⟩ := Int.fract_eq_zero_iff.mp hfract
    rw [(isWhole_iff hfinite).mpr ⟨n, hn.symm⟩] at hwhole
    cases hwhole

/-- Cut toward zero, a number with a fraction is an integer that a 64-bit word holds. -/
theorem HasFraction.inInt64 {x : Binary64} (h : x.HasFraction) : InInt64 x.truncate := by
  obtain ⟨-, hwhole⟩ := hasFraction_iff.mp h
  cases x with
  | nan => cases h.finite
  | signed negative m =>
    have hdvd : ¬oneUnits ∣ m.val := by
      intro hd
      rw [isWhole, Nat.dvd_iff_mod_eq_zero.mp hd] at hwhole
      cases hwhole
    have hlt := Magnitude.div_oneUnits_lt_of_not_dvd m.property hdvd
    have habs := natAbs_truncate negative m
    generalize truncate (.signed negative m) = n at habs
    unfold InInt64
    omega

end Binary64

namespace Selector

section

variable {x : Binary64}

theorem exactIndex_truncate_of_reject {n : Int64} (h : exactIndex .reject x = .ok n) :
    exactIndex .truncate x = .ok n := by
  obtain ⟨hfinite, -, hn⟩ := exactIndex_eq_ok_iff.mp h
  exact exactIndex_eq_ok_iff.mpr ⟨hfinite, (nomatch ·), hn⟩

/-- A fraction is refused before the range is looked at, and where it is cut off there is nothing to
find fault with in the range. -/
theorem exactIndex_of_hasFraction (h : x.HasFraction) :
    exactIndex .reject x = .error (.notInteger x) ∧ ∃ n, exactIndex .truncate x = .ok n := by
  obtain ⟨hfinite, hwhole⟩ := Binary64.hasFraction_iff.mp h
  constructor
  · simp [exactIndex, hfinite, hwhole]
  · refine ⟨.ofInt x.truncate, exactIndex_eq_ok_iff.mpr ⟨hfinite, (nomatch ·), ?_⟩⟩
    exact Int64.toInt_ofInt_of_le h.inInt64.1 h.inInt64.2

theorem exactIndex_reject_or_hasFraction {n : Int64} (h : exactIndex .truncate x = .ok n) :
    exactIndex .reject x = .ok n ∨ x.HasFraction := by
  obtain ⟨hfinite, -, hn⟩ := exactIndex_eq_ok_iff.mp h
  cases hwhole : x.isWhole with
  | true => exact .inl (exactIndex_eq_ok_iff.mpr ⟨hfinite, fun _ => hwhole, hn⟩)
  | false => exact .inr (Binary64.hasFraction_iff.mpr ⟨hfinite, hwhole⟩)

end

section

variable {k : Coordinate} {body : String} {s : Selector}

theorem parse_truncate_of_reject (h : parse k .reject body = .ok s) :
    parse k .truncate body = .ok s := by
  apply parseChars_eq_ok_iff.mpr
  cases parseChars_eq_ok_iff.mp h with
  | indexExact single number whole =>
    exact .indexExact single number (exactIndex_truncate_of_reject whole)
  | positionExact single number => exact .positionExact single number
  | indexRange double lower upper => exact .indexRange double lower upper
  | positionRange double lower upper => exact .positionRange double lower upper

/-- The two policies differ over a number with a fraction behind `#`, and over nothing else. -/
theorem parse_reject_or_hasFraction (h : parse k .truncate body = .ok s) :
    parse k .reject body = .ok s ∨
      ∃ x, k = .index ∧ Binary64.read? body = some x ∧ x.HasFraction := by
  cases parseChars_eq_ok_iff.mp h with
  | @indexExact _ x n single number whole =>
    rcases exactIndex_reject_or_hasFraction whole with hn | fraction
    · exact .inl (parseChars_eq_ok_iff.mpr (.indexExact single number hn))
    · exact .inr ⟨x, rfl, readNumber_eq_ok_iff.mp number, fraction⟩
  | positionExact single number =>
    exact .inl (parseChars_eq_ok_iff.mpr (.positionExact single number))
  | indexRange double lower upper =>
    exact .inl (parseChars_eq_ok_iff.mpr (.indexRange double lower upper))
  | positionRange double lower upper =>
    exact .inl (parseChars_eq_ok_iff.mpr (.positionRange double lower upper))

theorem parse_of_hasFraction {x : Binary64} (number : Binary64.read? body = some x)
    (fraction : x.HasFraction) : parse .index .reject body = .error (.notInteger x) ∧
      ∃ n, parse .index .truncate body = .ok (.index (.exact n)) := by
  obtain ⟨hreject, n, htruncate⟩ := exactIndex_of_hasFraction fraction
  rw [parse_number number, parse_number number]
  simp only [hreject, htruncate]
  exact ⟨rfl, n, rfl⟩

end

end Selector

end PointSelect
