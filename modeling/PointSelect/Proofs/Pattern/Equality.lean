import PointSelect.Proofs.Pattern.NormalForm

namespace PointSelect

namespace Pattern

open Selector (Agree)

variable {p q r : Pattern}

theorem equal_iff : p.equal q = true ↔
    p.pathText? = q.pathText? ∧ Agree p.selector q.selector ∧ p.options = q.options := by
  simp [equal, Selector.equal_iff_agree, and_assoc]

theorem equal_symm (h : p.equal q = true) : q.equal p = true := by
  obtain ⟨hpath, hselector, hoptions⟩ := equal_iff.mp h
  exact equal_iff.mpr ⟨hpath.symm, hselector.symm, hoptions.symm⟩

theorem equal_trans (h : p.equal q = true) (h' : q.equal r = true) : p.equal r = true := by
  obtain ⟨hpath, hselector, hoptions⟩ := equal_iff.mp h
  obtain ⟨hpath', hselector', hoptions'⟩ := equal_iff.mp h'
  apply equal_iff.mpr
  exact ⟨hpath.trans hpath', hselector.trans hselector', hoptions.trans hoptions'⟩

/-- The text of a path expression tells all there is to it, and no text stands for none. -/
theorem map_path_eq (h : p.pathText? = q.pathText?) :
    p.rule.map (·.path) = q.rule.map (·.path) := by
  have hinjective : Function.Injective PathExpr.text := fun _ _ => PathExpr.eq_of_text_eq
  apply Option.map_injective hinjective
  rw [Option.map_map, Option.map_map]
  exact h

theorem all_path_eq (h : p.pathText? = q.pathText?) (test : PathExpr → Bool) :
    p.rule.all (test ·.path) = q.rule.all (test ·.path) := by
  have hpaths := congrArg (Option.all test) (map_path_eq h)
  rwa [Option.all_map, Option.all_map] at hpaths

/-- What `equal` compares is all that an answer is made of. -/
theorem answersAlike_of_equal (h : p.equal q = true) : AnswersAlike p q := by
  obtain ⟨hpath, hselector, hoptions⟩ := equal_iff.mp h
  have atStart (path : String) : p.matchesAtStart path = q.matchesAtStart path :=
    all_path_eq hpath (·.matchesAtStart path)
  have anywhere (path : String) : p.matchesAnywhere path = q.matchesAnywhere path :=
    all_path_eq hpath (·.matchesAnywhere path)
  have path (path : String) : p.matchesPath path = q.matchesPath path := by
    rw [matchesPath, matchesPath, hoptions, atStart, anywhere]
  have point (x : Point) : p.acceptsPoint x = q.acceptsPoint x := hselector.accepts_eq x
  refine ⟨atStart, anywhere, path, point, ?_⟩
  intro x
  rw [accepts, accepts, path, point]

theorem isDegenerate_eq_of_equal (h : p.equal q = true) : p.isDegenerate = q.isDegenerate := by
  have hpath := congrArg Option.isNone (equal_iff.mp h).1
  simpa [pathText?, isDegenerate] using hpath

/-- Equality of patterns is sound: equal patterns answer every question alike, whatever their
texts are. It is an equivalence on the patterns without a NaN, and it keeps a pattern without a
rule apart from those with an empty path expression. -/
theorem equal_sound (p q r : Pattern) :
    (p.equal q = true → AnswersAlike p q ∧ q.equal p = true) ∧
    (p.equal q = true → q.equal r = true → p.equal r = true) ∧
    (p.equal p = true ↔ ∀ x ∈ p.selector.numbers, x ≠ .nan) ∧
    (p.isDegenerate = true → q.isDegenerate = false → p.equal q = false ∧ q.equal p = false) := by
  refine ⟨?_, equal_trans, equal_self_iff, ?_⟩
  · intro h
    exact ⟨answersAlike_of_equal h, equal_symm h⟩
  · intro hp hq
    have hne : p.isDegenerate ≠ q.isDegenerate := by
      rw [hp, hq]
      decide
    refine ⟨Bool.eq_false_iff.mpr ?_, Bool.eq_false_iff.mpr ?_⟩
    · exact fun h => hne (isDegenerate_eq_of_equal h)
    · exact fun h => hne (isDegenerate_eq_of_equal h).symm

/-- The two zeros as bin positions, with a comment behind the one and a word behind the other, and
the pattern without a rule. -/
theorem equal_sound_zeros :
    ∃ p q : Pattern, compile {} "/a@0 # c" = .ok p ∧ compile {} "/a@-0 word" = .ok q ∧
      p.text? ≠ q.text? ∧ p.selector ≠ q.selector ∧ AnswersAlike p q ∧ q.equal p = true ∧
      p.equal p = true ∧ Pattern.equal {} p = false := by
  let path : PathExpr := ⟨"/a", _, rfl⟩
  let zero (negative : Bool) : Selector := .position (.exact (.signed negative .zero))
  let p : Pattern := ⟨some ⟨"/a@0", path, zero false⟩, {}⟩
  let q : Pattern := ⟨some ⟨"/a@-0 word", path, zero true⟩, {}⟩
  have hp : compile {} "/a@0 # c" = .ok p := by
    have htext : stripComment "/a@0 # c" = "/a@0" := by decide +kernel
    have hself : stripComment "/a@0" = "/a@0" := by decide +kernel
    have hsplit : split "/a@0" = ⟨path.text, some (.position, "0"), ""⟩ := by decide +kernel
    have hparse : Selector.parse .position .truncate "0" = .ok (zero false) := by decide +kernel
    rw [← compile_stripComment, htext, compile_of_split {} hself hsplit, hparse]
  have hq : compile {} "/a@-0 word" = .ok q := by
    have hself : stripComment "/a@-0 word" = "/a@-0 word" := by decide +kernel
    have hsplit : split "/a@-0 word" = ⟨path.text, some (.position, "-0"), "word"⟩ := by
      decide +kernel
    have hparse : Selector.parse .position .truncate "-0" = .ok (zero true) := by decide +kernel
    rw [compile_of_split {} hself hsplit, hparse]
  have hpq : p.equal q = true := by decide +kernel
  obtain ⟨sound, trans, -, -⟩ := equal_sound p q p
  obtain ⟨-, -, -, apart⟩ := equal_sound {} p p
  obtain ⟨halike, hqp⟩ := sound hpq
  exact ⟨p, q, hp, hq, by decide, by decide, halike, hqp, trans hpq hqp, (apart rfl rfl).1⟩

/-- A fraction that is cut off makes no difference either. -/
example : (do return (← compile {} "/a#2").equal (← compile {} "/a#2.9")).toOption = some true := by
  decide +kernel

end Pattern

end PointSelect
