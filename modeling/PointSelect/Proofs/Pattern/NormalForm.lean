import PointSelect.Proofs.Pattern.Reading
import PointSelect.Proofs.Selector.Equality

namespace PointSelect

/-- An expression is determined by its text. -/
theorem PathExpr.eq_of_text_eq {a b : PathExpr} (h : a.text = b.text) : a = b := by
  have ha := a.compile_text
  rw [h, b.compile_text] at ha
  exact (Except.ok.inj ha).symm

namespace Pattern

/-- Two patterns show the same in every field. Of a selector each number counts as it is: NaN is
itself and the zeros differ. -/
structure SameFields (p q : Pattern) : Prop where
  text : p.text? = q.text?
  path : p.pathText? = q.pathText?
  selector : p.selector = q.selector
  options : p.options = q.options

/-- Two patterns answer every question about a path or a point alike. -/
structure AnswersAlike (p q : Pattern) : Prop where
  atStart : ∀ path, p.matchesAtStart path = q.matchesAtStart path
  anywhere : ∀ path, p.matchesAnywhere path = q.matchesAnywhere path
  path : ∀ path, p.matchesPath path = q.matchesPath path
  point : ∀ x, p.acceptsPoint x = q.acceptsPoint x
  accepts : ∀ x, p.accepts x = q.accepts x

theorem SameFields.refl (p : Pattern) : SameFields p p := ⟨rfl, rfl, rfl, rfl⟩

theorem AnswersAlike.refl (p : Pattern) : AnswersAlike p p :=
  ⟨fun _ => rfl, fun _ => rfl, fun _ => rfl, fun _ => rfl, fun _ => rfl⟩

/-- The shown fields are all there is to a pattern: the machine of its path expression follows from
the text. -/
theorem eq_of_sameFields {p q : Pattern} (h : SameFields p q) : p = q := by
  obtain ⟨ht, hp, hs, ho⟩ := h
  obtain ⟨pr, po⟩ := p
  obtain ⟨qr, qo⟩ := q
  cases pr with
  | none =>
    cases qr with
    | none => exact congrArg _ ho
    | some b => cases ht
  | some a =>
    cases qr with
    | none => cases ht
    | some b =>
      obtain ⟨at', ap, as'⟩ := a
      obtain ⟨bt, bp, bs⟩ := b
      have h1 : at' = bt := Option.some.inj ht
      have h2 : ap = bp := PathExpr.eq_of_text_eq (Option.some.inj hp)
      have h3 : as' = bs := hs
      have h4 : po = qo := ho
      rw [h1, h2, h3, h4]

theorem SameFields.answersAlike {p q : Pattern} (h : SameFields p q) : AnswersAlike p q := by
  rw [eq_of_sameFields h]
  exact .refl q

/-- Whether a pattern equals itself hangs on its selector alone. -/
theorem equal_self_iff {p : Pattern} : p.equal p = true ↔ ∀ x ∈ p.selector.numbers, x ≠ .nan := by
  simp [equal, Selector.equal_self_iff]

/-- A pattern is read again from what it writes. -/
theorem compile_write {o : MatchOptions} {line : String} {p : Pattern}
    (h : compile o line = .ok p) : compile o p.write = .ok p := by
  rw [write_of_compile h, compile_stripComment, h]

/-- The text in an error fails with that very error. -/
theorem compile_errorText {o : MatchOptions} {line : String} {e : PatternError}
    (h : compile o line = .error e) : compile o e.pattern = .error e := by
  rw [(text_of_compile_error h).1, compile_stripComment, h]

/-- The normalised text stands for the whole line, whether the line is a pattern or not. What comes
of it differs from the first pattern under no question; only `equal` tells a NaN apart from
itself. -/
theorem normalForm (o : MatchOptions) (line : String) :
    (∀ p, compile o line = .ok p → ∃ q, compile o p.write = .ok q ∧
      SameFields q p ∧ AnswersAlike q p ∧
      (q.equal p = true ↔ ∀ x ∈ p.selector.numbers, x ≠ .nan)) ∧
    ∀ e, compile o line = .error e → compile o e.pattern = .error e := by
  constructor
  · intro p h
    have same := SameFields.refl p
    exact ⟨p, compile_write h, same, same.answersAlike, equal_self_iff⟩
  · intro e h
    exact compile_errorText h

end Pattern

end PointSelect
