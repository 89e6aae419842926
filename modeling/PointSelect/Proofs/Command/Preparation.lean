import PointSelect.Proofs.Command.Stages
import PointSelect.Proofs.SelectionList.PathMode

namespace PointSelect.Command

section

variable {ε α β : Type}

theorem mapM_map_ok {f f' : α → Except ε β} {g : β → β} (h : ∀ a, f' a = (f a).map g)
    (as : List α) : as.mapM f' = (as.mapM f).map (List.map g) := by
  induction as with
  | nil => rfl
  | cons a as ih =>
    rw [List.mapM_cons, List.mapM_cons, h, ih]
    cases f a with
    | error e => rfl
    | ok b => cases as.mapM f <;> rfl

end

/-- The same patterns are built for either way of matching paths, or the same failure. -/
theorem PatternSource.build_inMode (d : Directory) (config : SelectionConfig) (mode : PathMode)
    (source : PatternSource) :
    source.build d (config.inMode mode) = (source.build d config).map (·.inMode mode) := by
  cases source with
  | file path =>
    rw [build, build, SelectionList.load_inMode]
    cases SelectionList.load d config path <;> rfl
  | given lines =>
    have h := mapM_map_ok (Pattern.compile_inMode config.matching mode) lines
    rw [build, build]
    change ((lines.mapM (Pattern.compile (config.matching.inMode mode))).map _).mapError _ = _
    rw [h]
    cases lines.mapM (Pattern.compile config.matching) with
    | error e => rfl
    | ok ps => exact congrArg Except.ok (SelectionList.ofPatterns_inMode ps mode)

/-- Whether paths are matched anywhere whatever the configuration says. -/
def Task.searches : Task → Bool
  | .select _ search _ => search
  | .check => false

namespace Invocation

/-- The part of a run before its task: the configuration is read, and then the patterns. -/
def prepare (i : Invocation) : Action SelectionList := do
  let config ← Action.read i.configOf
  Action.read fun d => i.source.build d config

/-- What a run does with its patterns. -/
def carryOut (i : Invocation) (list : SelectionList) : Action Unit :=
  match i.task with
  | .check => Action.check list
  | .select points _ output => Action.select list points output

theorem perform_eq (i : Invocation) : i.perform = i.prepare >>= i.carryOut := by
  rw [perform, prepare, bind_assoc]
  rfl

/-- The configuration that a run is given, before the search option is looked at. -/
def givenConfig (i : Invocation) (d : Directory) : Except Failure SelectionConfig :=
  match i.config with
  | none => .ok {}
  | some path => (SelectionConfig.load d path).mapError .config

/-- The patterns that a run is given, before the search option is looked at. -/
def givenPatterns (i : Invocation) (d : Directory) : Except Failure SelectionList :=
  i.givenConfig d >>= fun config => i.source.build d config

/-- The patterns that a run works with. -/
def patterns (i : Invocation) (d : Directory) : Except Failure SelectionList :=
  i.configOf d >>= fun config => i.source.build d config

section

variable (i : Invocation) (d : Directory)

theorem configOf_eq : i.configOf d = (i.givenConfig d).map fun config =>
    if i.task.searches then config.inMode .search else config := by
  obtain ⟨level, config, source, task⟩ := i
  rw [configOf, givenConfig]
  cases config with
  | none =>
    cases task with
    | check => rfl
    | select points search output => cases search <;> rfl
  | some path =>
    dsimp only
    cases SelectionConfig.load d path with
    | error e => rfl
    | ok config =>
      cases task with
      | check => rfl
      | select points search output => cases search <;> rfl

/-- The search option changes the way of matching paths in every pattern and nothing else. -/
theorem patterns_eq : i.patterns d = (i.givenPatterns d).map fun list =>
    if i.task.searches then list.inMode .search else list := by
  rw [patterns, configOf_eq, givenPatterns]
  cases i.givenConfig d with
  | error failure => rfl
  | ok config =>
    cases i.task.searches with
    | false =>
      change i.source.build d config = (i.source.build d config).map fun list => list
      cases i.source.build d config <;> rfl
    | true => exact PatternSource.build_inMode d config .search i.source

theorem run_prepare : i.prepare.run ⟨d, ""⟩ = match i.patterns d with
    | .ok list => .ok list ⟨d, ""⟩
    | .error failure => .error failure ⟨d, ""⟩ := by
  rw [prepare, patterns]
  cases configured : i.configOf d with
  | error failure =>
    rw [Action.run_read_bind_of_error configured]
    rfl
  | ok config =>
    have hbuild : (Except.ok config >>= fun config => i.source.build d config) =
        i.source.build d config := rfl
    rw [Action.run_read_bind_of_ok configured, Action.run_read, hbuild]
    cases i.source.build d config <;> rfl

end

section

variable {i : Invocation} {d : Directory}

theorem patterns_eq_givenPatterns (h : i.task.searches = false) :
    i.patterns d = i.givenPatterns d := by
  rw [patterns_eq, h]
  cases i.givenPatterns d <;> rfl

theorem run_perform_of_patterns {list : SelectionList} (h : i.patterns d = .ok list) :
    i.perform.run ⟨d, ""⟩ = (i.carryOut list).run ⟨d, ""⟩ := by
  have hp : i.prepare.run ⟨d, ""⟩ = .ok list ⟨d, ""⟩ := by rw [run_prepare, h]
  rw [perform_eq, Action.run_bind_of_ok hp]

theorem run_perform_of_patterns_error {failure : Failure} (h : i.patterns d = .error failure) :
    i.perform.run ⟨d, ""⟩ = .error failure ⟨d, ""⟩ := by
  have hp : i.prepare.run ⟨d, ""⟩ = .error failure ⟨d, ""⟩ := by rw [run_prepare, h]
  rw [perform_eq, Action.run_bind_of_error hp]

theorem failure_run_of_patterns_error {failure : Failure} (h : i.patterns d = .error failure) :
    (i.run d).failure = some failure := by
  rw [run, run_perform_of_patterns_error h]

end

end Invocation

end PointSelect.Command
