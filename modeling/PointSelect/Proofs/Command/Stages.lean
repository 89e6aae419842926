import PointSelect.Command.Run
import Mathlib.Data.List.Basic

namespace PointSelect.Command

/-- All that a check prints. -/
def checkText (list : SelectionList) : String :=
  String.join (list.patterns.map checkLine) ++ summaryLine list

section

variable {α ε ε' : Type} {x : Except ε α}

theorem mapError_of_ok {a : α} (h : x = .ok a) (f : ε → ε') : x.mapError f = .ok a := by
  rw [h]
  rfl

theorem mapError_of_error {e : ε} (h : x = .error e) (f : ε → ε') :
    x.mapError f = .error (f e) := by
  rw [h]
  rfl

end

namespace Action

section

variable {α β : Type} {answer : Directory → Except Failure α} {w w' : World} {failure : Failure}

theorem run_bind_of_ok {x : Action α} {a : α} (h : x.run w = .ok a w') (f : α → Action β) :
    (x >>= f).run w = (f a).run w' := by
  have hx : x w = .ok a w' := h
  change EStateM.bind x f w = (f a).run w'
  rw [EStateM.bind, hx]
  rfl

theorem run_bind_of_error {x : Action α} (h : x.run w = .error failure w') (f : α → Action β) :
    (x >>= f).run w = .error failure w' := by
  have hx : x w = .error failure w' := h
  change EStateM.bind x f w = .error failure w'
  rw [EStateM.bind, hx]

/-- Finding something out changes nothing, whether it comes to anything or not. -/
theorem run_read (answer : Directory → Except Failure α) (w : World) :
    (read answer).run w = match answer w.directory with
      | .ok a => .ok a w
      | .error failure => .error failure w := by
  have hget : (get : Action World).run w = .ok w w := rfl
  rw [read, run_bind_of_ok hget]
  cases answer w.directory with
  | ok a => rfl
  | error failure => rfl

theorem run_read_bind_of_ok {a : α} (h : answer w.directory = .ok a) (f : α → Action β) :
    (read answer >>= f).run w = (f a).run w := by
  apply run_bind_of_ok
  rw [run_read, h]

theorem run_read_bind_of_error (h : answer w.directory = .error failure) (f : α → Action β) :
    (read answer >>= f).run w = .error failure w := by
  apply run_bind_of_error
  rw [run_read, h]

end

theorem run_print (text : String) (w : World) :
    (print text).run w = .ok () { w with stdout := w.stdout ++ text } := rfl

theorem run_forM_print (line : Pattern → String) (ps : List Pattern) (w : World) :
    (ps.forM fun p => print (line p)).run w =
      .ok () { w with stdout := w.stdout ++ String.join (ps.map line) } := by
  induction ps generalizing w with
  | nil => simp [EStateM.run, pure, EStateM.pure]
  | cons p ps ih =>
    rw [List.forM, run_bind_of_ok (run_print (line p) w), ih]
    simp [String.append_assoc]

theorem run_check (list : SelectionList) (w : World) :
    (check list).run w = .ok () { w with stdout := w.stdout ++ checkText list } := by
  rw [check, run_bind_of_ok (run_forM_print checkLine list.patterns w), run_print, checkText,
    String.append_assoc]

theorem run_create_of_ok {path : String} {w : World} {d : Directory}
    (h : w.directory.create path = .ok d) :
    (create path).run w = .ok () { w with directory := d } := by
  rw [create, run_read_bind_of_ok (mapError_of_ok h Failure.output)]
  rfl

theorem run_create_of_error {path : String} {w : World} {e : FileError}
    (h : w.directory.create path = .error e) :
    (create path).run w = .error (.output e) w := by
  rw [create, run_read_bind_of_error (mapError_of_error h Failure.output)]

theorem run_write (path text : String) (w : World) :
    (write path text).run w = .ok () { w with
      directory := w.directory.append (Place.ofPath path) (Text.Utf8.encodeString text) } := rfl

end Action

namespace Invocation

/-- The failure of the first stage that fails, with what the stages before it found out. -/
inductive FirstFailure (i : Invocation) (d : Directory) : Failure → Prop where
  | config {failure : Failure} (bad : i.configOf d = .error failure) : FirstFailure i d failure
  | patterns {config : SelectionConfig} {failure : Failure} (configured : i.configOf d = .ok config)
    (bad : i.source.build d config = .error failure) : FirstFailure i d failure
  | table {config : SelectionConfig} {list : SelectionList} {points : String} {search : Bool}
    {output : Option String} {e : TableError} (selects : i.task = .select points search output)
    (configured : i.configOf d = .ok config) (built : i.source.build d config = .ok list)
    (bad : PointRecord.load d points = .error e) : FirstFailure i d (.table e)
  | output {config : SelectionConfig} {list : SelectionList} {points path : String} {search : Bool}
    {records : List PointRecord} {e : FileError}
    (selects : i.task = .select points search (some path))
    (configured : i.configOf d = .ok config) (built : i.source.build d config = .ok list)
    (loaded : PointRecord.load d points = .ok records) (bad : d.create path = .error e) :
    FirstFailure i d (.output e)

/-- What a run in which no stage fails leaves behind. -/
inductive Completes (i : Invocation) (d : Directory) : World → Prop where
  | checked {config : SelectionConfig} {list : SelectionList} (checks : i.task = .check)
    (configured : i.configOf d = .ok config) (built : i.source.build d config = .ok list) :
    Completes i d ⟨d, checkText list⟩
  | printed {config : SelectionConfig} {list : SelectionList} {points : String} {search : Bool}
    {records : List PointRecord} (selects : i.task = .select points search none)
    (configured : i.configOf d = .ok config) (built : i.source.build d config = .ok list)
    (loaded : PointRecord.load d points = .ok records) :
    Completes i d ⟨d, selectText list records⟩
  | saved {config : SelectionConfig} {list : SelectionList} {points path : String} {search : Bool}
    {records : List PointRecord} {d' : Directory}
    (selects : i.task = .select points search (some path))
    (configured : i.configOf d = .ok config) (built : i.source.build d config = .ok list)
    (loaded : PointRecord.load d points = .ok records) (created : d.create path = .ok d') :
    Completes i d ⟨d'.append (Place.ofPath path)
      (Text.Utf8.encodeString (selectText list records)), ""⟩

/-- Some stage fails, or none does. -/
theorem exists_firstFailure_or_completes (i : Invocation) (d : Directory) :
    (∃ failure, i.FirstFailure d failure) ∨ ∃ w, i.Completes d w := by
  cases configured : i.configOf d with
  | error failure => exact .inl ⟨_, .config configured⟩
  | ok config =>
    cases built : i.source.build d config with
    | error failure => exact .inl ⟨_, .patterns configured built⟩
    | ok list =>
      cases task : i.task with
      | check => exact .inr ⟨_, .checked task configured built⟩
      | select points search output =>
        cases loaded : PointRecord.load d points with
        | error e => exact .inl ⟨_, .table task configured built loaded⟩
        | ok records =>
          cases output with
          | none => exact .inr ⟨_, .printed task configured built loaded⟩
          | some path =>
            cases created : d.create path with
            | error e => exact .inl ⟨_, .output task configured built loaded created⟩
            | ok d' => exact .inr ⟨_, .saved task configured built loaded created⟩

section

variable {i : Invocation} {d : Directory} {w : World}

/-- A run goes through the stages in order. -/
theorem run_perform_of_built {config : SelectionConfig} {list : SelectionList}
    (configured : i.configOf d = .ok config) (built : i.source.build d config = .ok list) :
    i.perform.run ⟨d, ""⟩ = (match i.task with
      | .check => Action.check list
      | .select points _ output => Action.select list points output).run ⟨d, ""⟩ := by
  rw [perform, Action.run_read_bind_of_ok configured]
  exact Action.run_read_bind_of_ok built _

theorem FirstFailure.run_perform {failure : Failure} (h : i.FirstFailure d failure) :
    i.perform.run ⟨d, ""⟩ = .error failure ⟨d, ""⟩ := by
  cases h with
  | config bad => rw [perform, Action.run_read_bind_of_error bad]
  | patterns configured bad =>
    rw [perform, Action.run_read_bind_of_ok configured, Action.run_read_bind_of_error bad]
  | @table _ _ points _ _ e selects configured built bad =>
    have hl := mapError_of_error bad Failure.table
    rw [run_perform_of_built configured built, selects]
    exact Action.run_read_bind_of_error hl _
  | @output _ _ points path _ records e selects configured built loaded bad =>
    have hl := mapError_of_ok loaded Failure.table
    rw [run_perform_of_built configured built, selects]
    dsimp only
    rw [Action.select, Action.run_read_bind_of_ok hl]
    exact Action.run_bind_of_error (Action.run_create_of_error bad) _

theorem Completes.run_perform (h : i.Completes d w) : i.perform.run ⟨d, ""⟩ = .ok () w := by
  cases h with
  | checked checks configured built =>
    rw [run_perform_of_built configured built, checks]
    dsimp only
    rw [Action.run_check, String.empty_append]
  | @printed _ _ points _ records selects configured built loaded =>
    have hl := mapError_of_ok loaded Failure.table
    rw [run_perform_of_built configured built, selects]
    dsimp only
    rw [Action.select, Action.run_read_bind_of_ok hl]
    dsimp only
    rw [Action.run_print, String.empty_append]
  | @saved _ _ points path _ records d' selects configured built loaded created =>
    have hl := mapError_of_ok loaded Failure.table
    rw [run_perform_of_built configured built, selects]
    dsimp only
    rw [Action.select, Action.run_read_bind_of_ok hl]
    dsimp only
    rw [Action.run_bind_of_ok (Action.run_create_of_ok created), Action.run_write]

theorem FirstFailure.run_eq {failure : Failure} (h : i.FirstFailure d failure) :
    (i.run d).failure = some failure ∧ (i.run d).stdout = "" ∧ (i.run d).directory = d := by
  simp only [run, h.run_perform, and_self]

theorem Completes.run_eq (h : i.Completes d w) :
    (i.run d).failure = none ∧ (i.run d).stdout = w.stdout ∧
      (i.run d).directory = w.directory := by
  simp only [run, h.run_perform, and_self]

theorem failure_run_eq_some_iff {failure : Failure} :
    (i.run d).failure = some failure ↔ i.FirstFailure d failure := by
  constructor
  · intro h
    rcases exists_firstFailure_or_completes i d with ⟨f, hf⟩ | ⟨w, hw⟩
    · have he : some f = some failure := hf.run_eq.1.symm.trans h
      exact Option.some.inj he ▸ hf
    · rw [hw.run_eq.1] at h
      cases h
  · exact fun h => h.run_eq.1

theorem exists_completes_of_failure_run_eq_none (h : (i.run d).failure = none) :
    ∃ w, i.Completes d w := by
  rcases exists_firstFailure_or_completes i d with ⟨f, hf⟩ | hw
  · rw [hf.run_eq.1] at h
    cases h
  · exact hw

end

end Invocation

namespace Request

/-- A question for the version has no stage that could fail. -/
def FirstFailure (r : Request) (d : Directory) (failure : Failure) : Prop :=
  ∃ i, r = .run i ∧ i.FirstFailure d failure

/-- What fails is the first stage that can fail, and then nothing was printed and no file has
changed. -/
theorem answer_failing (r : Request) (d : Directory) :
    (∀ failure, (r.answer d).failure = some failure ↔ r.FirstFailure d failure) ∧
    ((r.answer d).failure.isSome = true →
      (r.answer d).stdout = "" ∧ (r.answer d).directory = d) := by
  cases r with
  | version => simp [answer, FirstFailure]
  | run i =>
    have hf : ∀ failure, (i.run d).failure = some failure ↔ i.FirstFailure d failure :=
      fun _ => Invocation.failure_run_eq_some_iff
    refine ⟨?_, ?_⟩
    · intro failure
      simp [answer, FirstFailure, hf]
    · intro h
      obtain ⟨failure, he⟩ := Option.isSome_iff_exists.mp h
      exact ((hf failure).mp he).run_eq.2

end Request

end PointSelect.Command
