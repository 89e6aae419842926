import PointSelect.Proofs.Pattern.Reading
import PointSelect.Proofs.Regex.Places

namespace PointSelect

/-- The same options with paths matched in another way. -/
def MatchOptions.inMode (o : MatchOptions) (mode : PathMode) : MatchOptions :=
  { o with pathMode := mode }

namespace Pattern

/-- The same pattern with paths matched in another way. -/
def inMode (p : Pattern) (mode : PathMode) : Pattern := { p with options := p.options.inMode mode }

/-- Reading a line does not look at the way in which paths are matched. -/
theorem compile_inMode (o : MatchOptions) (mode : PathMode) (line : String) :
    compile (o.inMode mode) line = (compile o line).map (·.inMode mode) := by
  have hrule := compile_map_rule o (o.inMode mode) line rfl
  cases hp : compile o line with
  | error e =>
    cases hq : compile (o.inMode mode) line with
    | error e' =>
      rw [hp, hq] at hrule
      exact congrArg Except.error (Except.error.inj hrule)
    | ok q =>
      rw [hp, hq] at hrule
      cases hrule
  | ok p =>
    cases hq : compile (o.inMode mode) line with
    | error e' =>
      rw [hp, hq] at hrule
      cases hrule
    | ok q =>
      rw [hp, hq] at hrule
      have hr : q.rule = p.rule := Except.ok.inj hrule
      have ho : q.options = p.options.inMode mode := by
        rw [options_of_compile hq, options_of_compile hp]
      obtain ⟨rule, options⟩ := q
      obtain rfl : rule = p.rule := hr
      obtain rfl : options = p.options.inMode mode := ho
      rfl

section

variable {p : Pattern}

theorem matchesAnywhere_of_matchesAtStart {path : String} (h : p.matchesAtStart path = true) :
    p.matchesAnywhere path = true := by
  unfold matchesAtStart at h
  unfold matchesAnywhere
  cases hr : p.rule with
  | none => rfl
  | some rule =>
    rw [hr] at h
    exact Regex.Expr.matchesAnywhere_of_matchesAtStart h

/-- A path that is matched in any way is matched by a search. -/
theorem matchesPath_search {path : String} (h : p.matchesPath path = true) :
    (p.inMode .search).matchesPath path = true := by
  change p.matchesAnywhere path = true
  unfold matchesPath at h
  cases hm : p.options.pathMode with
  | anchored =>
    rw [hm] at h
    exact matchesAnywhere_of_matchesAtStart h
  | search =>
    rw [hm] at h
    exact h

theorem accepts_search {x : Point} (h : p.accepts x = true) :
    (p.inMode .search).accepts x = true := by
  have hparts : p.matchesPath x.path = true ∧ p.acceptsPoint x = true := by
    simpa [accepts] using h
  have hpoint : (p.inMode .search).acceptsPoint x = true := hparts.2
  rw [accepts, matchesPath_search hparts.1, hpoint]
  rfl

end

end Pattern

end PointSelect
