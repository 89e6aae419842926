import PointSelect.Proofs.Command.Output
import PointSelect.Proofs.Command.Preparation

namespace PointSelect

/-- A line is the same pattern for a search, or the same error, and the search accepts what is
accepted from the start of the path. -/
theorem Pattern.compile_search (policy : IndexPolicy) (line : String) :
    let anchored := compile ⟨policy, .anchored⟩ line
    let search := compile ⟨policy, .search⟩ line
    (∀ e, search = .error e ↔ anchored = .error e) ∧
    ∀ p, anchored = .ok p → ∃ q, search = .ok q ∧ q.text? = p.text? ∧ q.pathText? = p.pathText? ∧
      q.selector = p.selector ∧ ∀ x, p.accepts x = true → q.accepts x = true := by
  intro anchored search
  have h : search = anchored.map (·.inMode .search) :=
    compile_inMode ⟨policy, .anchored⟩ .search line
  rw [h]
  refine ⟨?_, ?_⟩
  · intro e
    cases anchored <;> simp [Except.map]
  · intro p hp
    refine ⟨p.inMode .search, ?_, rfl, rfl, rfl, fun x => accepts_search⟩
    rw [hp]
    rfl

namespace Command

/-- A text is printed, or it is all that the output file holds. -/
def Outcome.Leaves (o : Outcome) (output : Option String) (text : String) : Prop :=
  match output with
  | none => o.stdout = text
  | some path => o.stdout = "" ∧ o.directory.readText path = .ok text

/-- A selection depends on its patterns only in the text that it leaves. -/
theorem Action.run_select (list : SelectionList) (points : String) (output : Option String)
    (d : Directory) : (select list points output).run ⟨d, ""⟩ =
      match PointRecord.load d points, output with
      | .error e, _ => .error (.table e) ⟨d, ""⟩
      | .ok records, none => .ok () ⟨d, selectText list records⟩
      | .ok records, some path =>
        match d.create path with
        | .error e => .error (.output e) ⟨d, ""⟩
        | .ok created => .ok () ⟨created.append (Place.ofPath path)
            (Text.Utf8.encodeString (selectText list records)), ""⟩ := by
  cases loaded : PointRecord.load d points with
  | error e => rw [select, run_read_bind_of_error (mapError_of_error loaded Failure.table)]
  | ok records =>
    rw [select, run_read_bind_of_ok (mapError_of_ok loaded Failure.table)]
    cases output with
    | none =>
      dsimp only
      rw [run_print, String.empty_append]
    | some path =>
      dsimp only
      cases created : d.create path with
      | error e => rw [run_bind_of_error (run_create_of_error created)]
      | ok d' => rw [run_bind_of_ok (run_create_of_ok created), run_write]

namespace Invocation

section

variable {i j : Invocation} {d : Directory} {list wide : SelectionList} {points : String}
  {output : Option String}

theorem failure_run_congr (hi : i.carryOut list = Action.select list points output)
    (hj : j.carryOut wide = Action.select wide points output) (built : i.patterns d = .ok list)
    (built' : j.patterns d = .ok wide) : (i.run d).failure = (j.run d).failure := by
  rw [run, run, run_perform_of_patterns built, run_perform_of_patterns built', hi, hj,
    Action.run_select, Action.run_select]
  cases PointRecord.load d points with
  | error e => rfl
  | ok records =>
    cases output with
    | none => rfl
    | some path =>
      dsimp only
      cases d.create path <;> rfl

theorem leaves_of_failure_run_eq_none (hi : i.carryOut list = Action.select list points output)
    (built : i.patterns d = .ok list) (succeeds : (i.run d).failure = none) :
    ∃ records, PointRecord.load d points = .ok records ∧
      (i.run d).Leaves output (selectText list records) := by
  have hrun := (run_perform_of_patterns built).trans
    ((congrArg (·.run ⟨d, ""⟩) hi).trans (Action.run_select list points output d))
  rw [run, hrun] at succeeds ⊢
  cases loaded : PointRecord.load d points with
  | error e => simp [loaded] at succeeds
  | ok records =>
    refine ⟨records, rfl, ?_⟩
    cases output with
    | none => rfl
    | some path =>
      cases created : d.create path with
      | error e => simp [loaded, created] at succeeds
      | ok d' =>
        dsimp only
        rw [created]
        exact ⟨rfl, Directory.readText_append_of_create created _⟩

/-- A configuration counts by what it says, and the search option by what it makes of that. -/
theorem run_congr_config {level : EventLevel} {config config' : Option String}
    {source : PatternSource} {search search' : Bool} :
    let i : Invocation := ⟨level, config, source, .select points search output⟩
    let j : Invocation := ⟨level, config', source, .select points search' output⟩
    i.configOf d = j.configOf d → i.run d = j.run d := by
  intro i j same
  have hevents : i.events d = j.events d := by
    rw [events, events, same]
    cases j.configOf d with
    | error failure => rfl
    | ok given =>
      dsimp only [i, j]
      cases source.build d given <;> rfl
  have hpatterns : i.patterns d = j.patterns d := by rw [patterns, patterns, same]
  have hperform : i.perform.run ⟨d, ""⟩ = j.perform.run ⟨d, ""⟩ := by
    cases built : j.patterns d with
    | error failure =>
      rw [run_perform_of_patterns_error built,
        run_perform_of_patterns_error (hpatterns.trans built)]
    | ok list =>
      rw [run_perform_of_patterns built, run_perform_of_patterns (hpatterns.trans built)]
      rfl
  rw [run, run, hevents, hperform]

end

/-- A search fails where the same selection without it fails, and in the same way. If neither
fails, it selects all records that are selected without it and maybe more, in the same order. It is
the run with a configuration that differs from the given one at most in asking for a search. -/
theorem run_search (level : EventLevel) (config : Option String) (source : PatternSource)
    (points : String) (output : Option String) (d : Directory) :
    let select (config : Option String) (search : Bool) : Invocation :=
      ⟨level, config, source, .select points search output⟩
    let plain := (select config false).run d
    let searching := (select config true).run d
    searching.failure = plain.failure ∧
    (plain.failure = none → ∃ records list wide, PointRecord.load d points = .ok records ∧
      (select config false).patterns d = .ok list ∧ (select config true).patterns d = .ok wide ∧
      plain.Leaves output (selectText list records) ∧
      searching.Leaves output (selectText wide records) ∧
      (list.select (·.point) records).Sublist (wide.select (·.point) records)) ∧
    (∀ config' given, (select config false).givenConfig d = .ok given →
      (select config' false).givenConfig d = .ok (given.inMode .search) →
      (select config' false).run d = searching) ∧
    ∀ policy line,
      let anchored := Pattern.compile ⟨policy, .anchored⟩ line
      let search := Pattern.compile ⟨policy, .search⟩ line
      (∀ e, search = .error e ↔ anchored = .error e) ∧
      ∀ p, anchored = .ok p → ∃ q, search = .ok q ∧ q.text? = p.text? ∧
        q.pathText? = p.pathText? ∧ q.selector = p.selector ∧
        ∀ x, p.accepts x = true → q.accepts x = true := by
  intro select plain searching
  have hplain : (select config false).patterns d = (select config false).givenPatterns d :=
    patterns_eq_givenPatterns rfl
  have hwide : (select config true).patterns d =
      ((select config false).patterns d).map (·.inMode .search) := by
    rw [hplain]
    exact (select config true).patterns_eq d
  have hsame : searching.failure = plain.failure := by
    cases built : (select config false).patterns d with
    | error failure =>
      rw [built] at hwide
      exact (failure_run_of_patterns_error hwide).trans (failure_run_of_patterns_error built).symm
    | ok list =>
      rw [built] at hwide
      exact failure_run_congr rfl rfl hwide built
  refine ⟨hsame, ?_, ?_, Pattern.compile_search⟩
  · intro succeeds
    cases built : (select config false).patterns d with
    | error failure =>
      rw [show plain.failure = _ from failure_run_of_patterns_error built] at succeeds
      cases succeeds
    | ok list =>
      rw [built] at hwide
      obtain ⟨records, loaded, hleaves⟩ := leaves_of_failure_run_eq_none rfl built succeeds
      obtain ⟨records', loaded', hleaves'⟩ :=
        leaves_of_failure_run_eq_none rfl hwide (hsame.trans succeeds)
      obtain rfl : records = records' := Except.ok.inj (loaded.symm.trans loaded')
      exact ⟨records, list, _, loaded, rfl, hwide, hleaves, hleaves',
        list.select_sublist_search _ records⟩
  · intro config' given hconfig hconfig'
    refine (run_congr_config ?_).symm
    have hl := (select config true).configOf_eq d
    have hr := (select config' false).configOf_eq d
    rw [show (select config true).givenConfig d = _ from hconfig] at hl
    rw [hconfig'] at hr
    exact hl.trans hr.symm

end Invocation

end Command

end PointSelect
