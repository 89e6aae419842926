import PointSelect.Proofs.Pattern.Rendering
import PointSelect.Proofs.Selector.IndexPolicy

namespace PointSelect

namespace Pattern

/-- The same pattern as if it had been read under another index policy. -/
def withPolicy (p : Pattern) (policy : IndexPolicy) : Pattern :=
  { p with options := { p.options with indexPolicy := policy } }

/-- The policy is only looked at when a pattern is read. -/
theorem accepts_withPolicy (p : Pattern) (policy : IndexPolicy) (x : Point) :
    (p.withPolicy policy).accepts x = p.accepts x := rfl

/-- A line that is no pattern only because a number with a fraction stands behind its `#`. -/
structure HasFractionalIndex (line : String) (e : PatternError) (x : Binary64) : Prop where
  marked : ∃ body, (split (stripComment line)).selector = some (.index, body) ∧
    Binary64.read? body = some x
  fraction : x.HasFraction
  error : e = ⟨stripComment line, .selector (.notInteger x)⟩

section

variable (mode : PathMode) {line : String}

/-- What is read where fractions are refused is read alike where they are cut off. -/
theorem compile_truncate_of_reject {p : Pattern} (h : compile ⟨.reject, mode⟩ line = .ok p) :
    compile ⟨.truncate, mode⟩ line = .ok (p.withPolicy .truncate) := by
  cases compile_eq_iff.mp h with
  | nothing blank => exact (Reads.nothing blank).compile_eq
  | pathOnly text good bare => exact (Reads.pathOnly text good bare).compile_eq
  | selected text good marked parsed =>
    exact (Reads.selected text good marked (Selector.parse_truncate_of_reject parsed)).compile_eq

/-- Of the lines that are refused, those are read where fractions are cut off that are refused for a
fraction. -/
theorem exists_compile_truncate_iff {e : PatternError}
    (h : compile ⟨.reject, mode⟩ line = .error e) :
    (∃ q, compile ⟨.truncate, mode⟩ line = .ok q) ↔ ∃ x, HasFractionalIndex line e x := by
  cases compile_eq_iff.mp h with
  | @malformedPath fault text bad =>
    have hlax : compile ⟨.truncate, mode⟩ line = .error ⟨stripComment line, .path fault⟩ :=
      (Reads.malformedPath text bad).compile_eq
    constructor
    · rintro ⟨q, hq⟩
      rw [hlax] at hq
      cases hq
    · rintro ⟨x, -, -, ⟨⟩⟩
  | @malformedSelector path k body fault text good marked bad =>
    constructor
    · rintro ⟨q, hq⟩
      obtain ⟨-, s, -, -, parsed⟩ := selected_of_compile hq marked
      rcases Selector.parse_reject_or_hasFraction parsed with hs | ⟨x, rfl, number, fraction⟩
      · rw [hs] at bad
        cases bad
      · rw [(Selector.parse_of_hasFraction number fraction).1] at bad
        cases bad
        exact ⟨x, ⟨body, marked, number⟩, fraction, rfl⟩
    · rintro ⟨x, ⟨body', hmarked, number⟩, fraction, -⟩
      obtain ⟨-, n, parsed⟩ := Selector.parse_of_hasFraction number fraction
      exact ⟨_, (Reads.selected text good hmarked parsed).compile_eq⟩

end

end Pattern

end PointSelect
