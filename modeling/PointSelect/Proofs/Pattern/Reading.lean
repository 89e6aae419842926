import PointSelect.Pattern.Basic
import PointSelect.Proofs.Pattern.Comment
import PointSelect.Proofs.Pattern.Marker

namespace PointSelect

namespace PathExpr

theorem compile_text (e : PathExpr) : compile e.text = .ok e := by
  obtain ⟨text, expr, h⟩ := e
  unfold compile
  split
  · next found hf =>
    have he : found = expr := by simpa [h] using hf.symm
    subst he
    rfl
  · next fault hf => simp [h] at hf

theorem text_of_compile {text : String} {e : PathExpr} (h : compile text = .ok e) :
    e.text = text := by
  unfold compile at h
  split at h
  · cases h
    rfl
  · cases h

theorem compile_eq_error_iff {text : String} {fault : Regex.Fault} :
    compile text = .error fault ↔ Regex.compile text = .error fault := by
  unfold compile
  split
  · next expr hf => simp [hf]
  · next found hf => simp [hf]

theorem exists_text_eq_iff {text : String} :
    (∃ e : PathExpr, e.text = text) ↔ ∃ expr, Regex.compile text = .ok expr := by
  constructor
  · rintro ⟨e, rfl⟩
    exact ⟨e.expr, e.compiles⟩
  · rintro ⟨expr, h⟩
    exact ⟨⟨text, expr, h⟩, rfl⟩

end PathExpr

namespace Pattern

/-- How a line becomes a pattern or an error: its comment goes first, then the path expression is
judged, and the selector only under a path expression that is one. -/
inductive Reads (o : MatchOptions) (line : String) : Except PatternError Pattern → Prop where
  | nothing (blank : stripComment line = "") : Reads o line (.ok ⟨none, o⟩)
  | malformedPath {fault : Regex.Fault} (text : stripComment line ≠ "")
    (bad : Regex.compile (split (stripComment line)).path = .error fault) :
    Reads o line (.error ⟨stripComment line, .path fault⟩)
  | pathOnly {path : PathExpr} (text : stripComment line ≠ "")
    (good : path.text = (split (stripComment line)).path)
    (bare : (split (stripComment line)).selector = none) :
    Reads o line (.ok ⟨some ⟨stripComment line, path, .unrestricted⟩, o⟩)
  | malformedSelector {path : PathExpr} {k : Coordinate} {body : String} {fault : SelectorFault}
    (text : stripComment line ≠ "") (good : path.text = (split (stripComment line)).path)
    (marked : (split (stripComment line)).selector = some (k, body))
    (bad : Selector.parse k o.indexPolicy body = .error fault) :
    Reads o line (.error ⟨stripComment line, .selector fault⟩)
  | selected {path : PathExpr} {k : Coordinate} {body : String} {selector : Selector}
    (text : stripComment line ≠ "") (good : path.text = (split (stripComment line)).path)
    (marked : (split (stripComment line)).selector = some (k, body))
    (parsed : Selector.parse k o.indexPolicy body = .ok selector) :
    Reads o line (.ok ⟨some ⟨stripComment line, path, selector⟩, o⟩)

theorem reads_compile (o : MatchOptions) (line : String) : Reads o line (compile o line) := by
  by_cases ht : stripComment line = ""
  · have hc : compile o line = .ok ⟨none, o⟩ := by simp [compile, ht]
    rw [hc]
    exact .nothing ht
  · cases hp : PathExpr.compile (split (stripComment line)).path with
    | error fault =>
      have hc : compile o line = .error ⟨stripComment line, .path fault⟩ := by
        simp [compile, ht, hp]
      rw [hc]
      exact .malformedPath ht (PathExpr.compile_eq_error_iff.mp hp)
    | ok path =>
      have good := PathExpr.text_of_compile hp
      cases hs : (split (stripComment line)).selector with
      | none =>
        have hc : compile o line = .ok ⟨some ⟨stripComment line, path, .unrestricted⟩, o⟩ := by
          simp [compile, ht, hp, readSelector, hs]
        rw [hc]
        exact .pathOnly ht good hs
      | some marked =>
        obtain ⟨k, body⟩ := marked
        cases hb : Selector.parse k o.indexPolicy body with
        | error fault =>
          have hc : compile o line = .error ⟨stripComment line, .selector fault⟩ := by
            simp [compile, ht, hp, readSelector, hs, hb]
          rw [hc]
          exact .malformedSelector ht good hs hb
        | ok selector =>
          have hc : compile o line = .ok ⟨some ⟨stripComment line, path, selector⟩, o⟩ := by
            simp [compile, ht, hp, readSelector, hs, hb]
          rw [hc]
          exact .selected ht good hs hb

theorem Reads.compile_eq {o : MatchOptions} {line : String} {r : Except PatternError Pattern}
    (h : Reads o line r) : compile o line = r := by
  cases h with
  | nothing blank => simp [compile, blank]
  | malformedPath text bad => simp [compile, text, PathExpr.compile_eq_error_iff.mpr bad]
  | @pathOnly path text good bare =>
    simp [compile, text, ← good, path.compile_text, readSelector, bare]
  | @malformedSelector path k body fault text good marked bad =>
    simp [compile, text, ← good, path.compile_text, readSelector, marked, bad]
  | @selected path k body selector text good marked parsed =>
    simp [compile, text, ← good, path.compile_text, readSelector, marked, parsed]

theorem compile_eq_iff {o : MatchOptions} {line : String} {r : Except PatternError Pattern} :
    compile o line = r ↔ Reads o line r :=
  ⟨fun h => h ▸ reads_compile o line, Reads.compile_eq⟩

/-- Under a path expression that is one the selector decides what becomes of a text. -/
theorem compile_of_split (o : MatchOptions) {text body trailing : String} {path : PathExpr}
    {k : Coordinate} (hself : stripComment text = text)
    (hsplit : split text = ⟨path.text, some (k, body), trailing⟩) :
    compile o text = match Selector.parse k o.indexPolicy body with
      | .ok s => .ok ⟨some ⟨text, path, s⟩, o⟩
      | .error fault => .error ⟨text, .selector fault⟩ := by
  have hne : stripComment text ≠ "" := by
    intro hblank
    rw [← hself, hblank] at hsplit
    cases congrArg PatternParts.selector hsplit
  have hgood : path.text = (split (stripComment text)).path := by rw [hself, hsplit]
  have hmarked : (split (stripComment text)).selector = some (k, body) := by rw [hself, hsplit]
  cases hparse : Selector.parse k o.indexPolicy body with
  | ok s =>
    have hread := (Reads.selected hne hgood hmarked hparse).compile_eq
    rwa [hself] at hread
  | error fault =>
    have hread := (Reads.malformedSelector hne hgood hmarked hparse).compile_eq
    rwa [hself] at hread

/-- Without a selector a text asks for what its path expression says. -/
theorem compile_of_unmarked (o : MatchOptions) {text trailing : String} {path : PathExpr}
    (hself : stripComment text = text) (hne : text ≠ "")
    (hsplit : split text = ⟨path.text, none, trailing⟩) :
    compile o text = .ok ⟨some ⟨text, path, .unrestricted⟩, o⟩ := by
  rw [← hself] at hne
  have hgood : path.text = (split (stripComment text)).path := by rw [hself, hsplit]
  have hbare : (split (stripComment text)).selector = none := by rw [hself, hsplit]
  have hread := (Reads.pathOnly (o := o) hne hgood hbare).compile_eq
  rwa [hself] at hread

theorem compile_of_malformedPath (o : MatchOptions) {text : String} {fault : Regex.Fault}
    (hself : stripComment text = text) (hne : text ≠ "")
    (hbad : Regex.compile (split text).path = .error fault) :
    compile o text = .error ⟨text, .path fault⟩ := by
  rw [← hself] at hne hbad
  have hread := (Reads.malformedPath (o := o) hne hbad).compile_eq
  rwa [hself] at hread

/-- Only the text without its comment counts. -/
theorem compile_stripComment (o : MatchOptions) (line : String) :
    compile o (stripComment line) = compile o line := by
  simp [compile]

theorem options_of_compile {o : MatchOptions} {line : String} {p : Pattern}
    (h : compile o line = .ok p) : p.options = o := by
  cases compile_eq_iff.mp h <;> rfl

theorem write_of_compile {o : MatchOptions} {line : String} {p : Pattern}
    (h : compile o line = .ok p) : p.write = stripComment line := by
  cases compile_eq_iff.mp h with
  | nothing blank => exact blank.symm
  | pathOnly text good bare => rfl
  | selected text good marked parsed => rfl

theorem pathText_sublist_of_compile {o : MatchOptions} {line : String} {p : Pattern}
    (h : compile o line = .ok p) : (p.pathText?.getD "").toList.Sublist p.write.toList := by
  have hs := path_split_sublist (stripComment line)
  cases compile_eq_iff.mp h with
  | nothing blank => exact List.Sublist.refl _
  | pathOnly text good bare =>
    rw [← good] at hs
    exact hs
  | selected text good marked parsed =>
    rw [← good] at hs
    exact hs

theorem text_of_compile_error {o : MatchOptions} {line : String} {e : PatternError}
    (h : compile o line = .error e) : e.pattern = stripComment line ∧ stripComment line ≠ "" := by
  cases compile_eq_iff.mp h with
  | malformedPath text bad => exact ⟨rfl, text⟩
  | malformedSelector text good marked bad => exact ⟨rfl, text⟩

theorem isDegenerate_of_compile_iff {o : MatchOptions} {line : String} {p : Pattern}
    (h : compile o line = .ok p) : p.isDegenerate = true ↔ stripComment line = "" := by
  cases compile_eq_iff.mp h with
  | nothing blank => simp [isDegenerate, blank]
  | pathOnly text good bare => simp [isDegenerate, text]
  | selected text good marked parsed => simp [isDegenerate, text]

/-- The way a pattern is applied to paths has no part in reading it. -/
theorem compile_map_rule (o o' : MatchOptions) (line : String)
    (h : o.indexPolicy = o'.indexPolicy) :
    (compile o' line).map (·.rule) = (compile o line).map (·.rule) := by
  generalize hr : compile o line = r
  cases compile_eq_iff.mp hr with
  | nothing blank =>
    rw [(Reads.nothing blank).compile_eq]
    rfl
  | malformedPath text bad =>
    rw [(Reads.malformedPath text bad).compile_eq]
  | pathOnly text good bare =>
    rw [(Reads.pathOnly text good bare).compile_eq]
    rfl
  | malformedSelector text good marked bad =>
    rw [h] at bad
    rw [(Reads.malformedSelector text good marked bad).compile_eq]
  | selected text good marked parsed =>
    rw [h] at parsed
    rw [(Reads.selected text good marked parsed).compile_eq]
    rfl

/-- Every line with a text meets exactly one of four ends, and the path expression is judged before
the selector: no selector turns a bad path expression into another error. -/
theorem compile_outcome (o : MatchOptions) (line : String) :
    let t := stripComment line
    let path := (split t).path
    ((∃ p, compile o line = .ok p ∧ p.isDegenerate = true) ↔ t = "") ∧
    (t ≠ "" →
      (∀ fault, compile o line = .error ⟨t, .path fault⟩ ↔ Regex.compile path = .error fault) ∧
      ∀ expr, Regex.compile path = .ok expr →
        ((split t).selector = none → ∃ p, compile o line = .ok p ∧ p.text? = some t ∧
          p.pathText? = some path ∧ p.selector = .unrestricted) ∧
        ∀ k body, (split t).selector = some (k, body) →
          (∀ s, Selector.parse k o.indexPolicy body = .ok s → ∃ p, compile o line = .ok p ∧
            p.text? = some t ∧ p.pathText? = some path ∧ p.selector = s) ∧
          ∀ fault, Selector.parse k o.indexPolicy body = .error fault →
            compile o line = .error ⟨t, .selector fault⟩) ∧
    (∀ mode, (compile { o with pathMode := mode } line).map (·.rule) =
      (compile o line).map (·.rule)) ∧
    ∀ e, compile o line = .error e → e.pattern = t ∧ t ≠ "" ∧ ¬HasComment e.pattern.toList := by
  intro t path
  refine ⟨?_, ?_, ?_, ?_⟩
  · constructor
    · rintro ⟨p, h, hd⟩
      exact (isDegenerate_of_compile_iff h).mp hd
    · intro ht
      exact ⟨⟨none, o⟩, (Reads.nothing ht).compile_eq, rfl⟩
  · intro ht
    refine ⟨?_, ?_⟩
    · intro fault
      constructor
      · intro h
        cases compile_eq_iff.mp h with
        | malformedPath text bad => exact bad
      · intro bad
        exact (Reads.malformedPath ht bad).compile_eq
    · intro expr hx
      obtain ⟨e, good⟩ := PathExpr.exists_text_eq_iff.mpr ⟨expr, hx⟩
      have shown : some e.text = some path := congrArg some good
      refine ⟨?_, ?_⟩
      · intro bare
        exact ⟨_, (Reads.pathOnly ht good bare).compile_eq, rfl, shown, rfl⟩
      · intro k body marked
        refine ⟨?_, ?_⟩
        · intro s parsed
          exact ⟨_, (Reads.selected ht good marked parsed).compile_eq, rfl, shown, rfl⟩
        · intro fault bad
          exact (Reads.malformedSelector ht good marked bad).compile_eq
  · intro mode
    exact compile_map_rule o { o with pathMode := mode } line rfl
  · intro e h
    obtain ⟨hp, ht⟩ := text_of_compile_error h
    refine ⟨hp, ht, ?_⟩
    rw [hp]
    exact stripComment_hasNoComment line

end Pattern

end PointSelect
