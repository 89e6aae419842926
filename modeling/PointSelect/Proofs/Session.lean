import PointSelect.Session
import PointSelect.Proofs.Pattern.NormalForm
import PointSelect.Proofs.SelectionList.Reading

namespace PointSelect

namespace Pattern

/-- A pattern with no text, no path expression and no selector. -/
structure Degenerate (p : Pattern) : Prop where
  text : p.text? = none
  path : p.pathText? = none
  selector : p.selector = .unrestricted

/-- A pattern with a text from which nothing is left to strip and which reads as that pattern. -/
def Canonical (p : Pattern) : Prop :=
  ∃ t, p.text? = some t ∧ t ≠ "" ∧ stripComment t = t ∧ compile p.options t = .ok p

theorem degenerate_of_rule_eq_none {p : Pattern} (h : p.rule = none) : p.Degenerate := by
  constructor
  · rw [text?, h]
    rfl
  · rw [pathText?, h]
    rfl
  · rw [selector, h]
    rfl

theorem canonical_of_compile {o : MatchOptions} {line : String} {p : Pattern}
    (h : compile o line = .ok p) (live : p.isDegenerate = false) : p.Canonical := by
  have ht : stripComment line ≠ "" := by
    intro blank
    have hd := (isDegenerate_of_compile_iff h).mpr blank
    rw [live] at hd
    cases hd
  have shown : p.text? = some (stripComment line) := by
    cases compile_eq_iff.mp h with
    | nothing blank => exact absurd blank ht
    | pathOnly text good bare => rfl
    | selected text good marked parsed => rfl
  refine ⟨stripComment line, shown, ht, stripComment_stripComment line, ?_⟩
  rw [options_of_compile h, compile_stripComment, h]

theorem degenerate_or_canonical_of_compile {o : MatchOptions} {line : String} {p : Pattern}
    (h : compile o line = .ok p) : p.Degenerate ∨ p.Canonical := by
  cases live : p.isDegenerate with
  | true => exact .inl (degenerate_of_rule_eq_none (Option.isNone_iff_eq_none.mp live))
  | false => exact .inr (canonical_of_compile h live)

/-- What the last of some lines says that is a pattern under the options of `start`, or `start`
itself if none of them is. -/
def Latest (start : Pattern) (lines : List String) (p : Pattern) : Prop :=
  (∃ before line after, lines = before ++ line :: after ∧
    compile start.options line = .ok p ∧ ∀ l ∈ after, ∀ q, compile start.options l ≠ .ok q) ∨
  (p = start ∧ ∀ l ∈ lines, ∀ q, compile start.options l ≠ .ok q)

end Pattern

namespace Session

/-- Every pattern of a session is degenerate or reads back from its text, and the list holds none of
the first sort. -/
structure Sound (s : Session) : Prop where
  pattern : s.pattern.Degenerate ∨ s.pattern.Canonical
  bag : ∀ p ∈ s.bag, p.Degenerate ∨ p.Canonical
  list : ∀ p ∈ s.list.patterns, p.isDegenerate = false ∧ p.Canonical

theorem sound_start : Sound {} := by
  refine ⟨.inl (Pattern.degenerate_of_rule_eq_none rfl), ?_, ?_⟩
  · intro p hp
    simp at hp
  · intro p hp
    simp [SelectionList.empty, SelectionList.ofPatterns] at hp

theorem replacePattern_sound {s : Session} (hs : s.Sound) {o : MatchOptions} {line : String} :
    (s.replacePattern (Pattern.compile o line)).1.Sound := by
  cases h : Pattern.compile o line with
  | ok p => exact ⟨Pattern.degenerate_or_canonical_of_compile h, hs.bag, hs.list⟩
  | error e => exact hs

/-- One action keeps the invariant, whatever comes of it. -/
theorem step_sound {s : Session} (hs : s.Sound) (a : Action) : (s.step a).1.Sound := by
  cases a with
  | compile o line =>
    rw [step]
    exact replacePattern_sound hs
  | recompile line =>
    rw [step, Pattern.recompile]
    exact replacePattern_sound hs
  | reset => exact ⟨sound_start.pattern, hs.bag, hs.list⟩
  | push =>
    refine ⟨hs.pattern, ?_, hs.list⟩
    intro p hp
    rcases List.mem_append.mp hp with hb | hn
    · exact hs.bag p hb
    · rw [List.mem_singleton.mp hn]
      exact hs.pattern
  | listBag =>
    refine ⟨hs.pattern, hs.bag, ?_⟩
    intro p hp
    have live : p.isDegenerate = false := (SelectionList.ofPatterns s.bag).live p hp
    rcases hs.bag p (List.mem_filter.mp hp).1 with hd | hc
    · -- a degenerate member of the bag does not reach the list
      have hn : p.rule = none := by simpa [Pattern.text?] using hd.text
      simp [Pattern.isDegenerate, hn] at live
    · exact ⟨live, hc⟩
  | parseList config text =>
    simp only [step]
    cases h : SelectionList.parse config text with
    | error e => exact hs
    | ok list =>
      refine ⟨hs.pattern, hs.bag, ?_⟩
      intro p hp
      have live := list.live p hp
      obtain ⟨line, -, hc⟩ := SelectionList.exists_line_of_mem_parse h hp
      exact ⟨live, Pattern.canonical_of_compile hc live⟩

theorem run_cons (s : Session) (a : Action) (actions : List Action) :
    s.run (a :: actions) = (s.step a).1.run actions := rfl

theorem run_sound {s : Session} (hs : s.Sound) (actions : List Action) : (s.run actions).Sound := by
  induction actions generalizing s with
  | nil => exact hs
  | cons a actions ih =>
    rw [run_cons]
    exact ih (step_sound hs a)

/-- An action with a fault leaves everything as it was. -/
theorem step_fault {s : Session} {a : Action} {fault : Fault} (h : (s.step a).2 = some fault) :
    (s.step a).1 = s := by
  cases a with
  | compile o line =>
    simp only [step] at h ⊢
    cases hc : Pattern.compile o line with
    | ok p => simp [hc, replacePattern] at h
    | error e => rfl
  | recompile line =>
    simp only [step] at h ⊢
    cases hc : s.pattern.recompile line with
    | ok p => simp [hc, replacePattern] at h
    | error e => rfl
  | reset => cases h
  | push => cases h
  | listBag => cases h
  | parseList config text =>
    simp only [step] at h ⊢
    cases hc : SelectionList.parse config text with
    | ok list => simp [hc, replaceList] at h
    | error e => rfl

theorem run_append (s : Session) (xs ys : List Action) :
    s.run (xs ++ ys) = (s.run xs).run ys := by
  simp [run]

theorem run_singleton (s : Session) (a : Action) : s.run [a] = (s.step a).1 := rfl

theorem step_recompile_options (s : Session) (line : String) :
    (s.step (.recompile line)).1.pattern.options = s.pattern.options := by
  simp only [step, Pattern.recompile]
  cases h : Pattern.compile s.pattern.options line with
  | ok p => exact Pattern.options_of_compile h
  | error e => rfl

theorem run_recompile_options (s : Session) (lines : List String) :
    (s.run (lines.map .recompile)).pattern.options = s.pattern.options := by
  induction lines generalizing s with
  | nil => rfl
  | cons line lines ih =>
    rw [List.map_cons, run_cons, ih]
    exact step_recompile_options s line

/-- Induction from the last line: it decides if it is a pattern, and else the lines before it do. -/
theorem run_recompile_latest (s : Session) (lines : List String) :
    s.pattern.Latest lines (s.run (lines.map .recompile)).pattern := by
  induction lines using List.reverseRecOn with
  | nil => exact .inr ⟨rfl, by simp⟩
  | append_singleton lines line ih =>
    have ho := run_recompile_options s lines
    rw [List.map_append, run_append, List.map_singleton, run_singleton]
    generalize s.run (lines.map .recompile) = t at ih ho
    simp only [step, Pattern.recompile, ho]
    cases h : Pattern.compile s.pattern.options line with
    | ok p => exact .inl ⟨lines, line, [], rfl, h, by simp⟩
    | error e =>
      have hn : ∀ q, Pattern.compile s.pattern.options line ≠ .ok q := by simp [h]
      rcases ih with ⟨before, last, after, rfl, hl, ha⟩ | ⟨hp, hl⟩
      · refine .inl ⟨before, last, after ++ [line], by simp, hl, ?_⟩
        intro l hm
        rcases List.mem_append.mp hm with hm | hm
        · exact ha l hm
        · rw [List.mem_singleton.mp hm]
          exact hn
      · refine .inr ⟨hp, ?_⟩
        intro l hm
        rcases List.mem_append.mp hm with hm | hm
        · exact hl l hm
        · rw [List.mem_singleton.mp hm]
          exact hn

/-- What holds after any actions from the start: the invariant, that a fault changes nothing, and
that reading other lines keeps the options and ends at the last line that was a pattern. -/
theorem run_start (actions : List Action) :
    let s := run {} actions
    s.Sound ∧ (∀ a fault, (s.step a).2 = some fault → (s.step a).1 = s) ∧
    ∀ lines, let t := s.run (lines.map .recompile)
      t.pattern.options = s.pattern.options ∧ s.pattern.Latest lines t.pattern := by
  intro s
  refine ⟨run_sound sound_start actions, ?_, ?_⟩
  · intro a fault h
    exact step_fault h
  · intro lines
    exact ⟨run_recompile_options s lines, run_recompile_latest s lines⟩

end Session

end PointSelect
