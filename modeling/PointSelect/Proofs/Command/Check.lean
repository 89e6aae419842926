import PointSelect.Proofs.Command.Preparation
import PointSelect.Proofs.Command.Report

namespace PointSelect

namespace Command

namespace Invocation

variable {i : Invocation} {d : Directory}

/-- The run fails before it opens a point table. -/
def FailsEarly (i : Invocation) (d : Directory) (failure : Failure) : Prop :=
  ∃ w, i.prepare.run ⟨d, ""⟩ = .error failure w

theorem failsEarly_iff {failure : Failure} :
    i.FailsEarly d failure ↔ i.patterns d = .error failure := by
  rw [FailsEarly, run_prepare]
  cases i.patterns d <;> simp

/-- A check fails only over its patterns. -/
theorem run_of_check (checks : i.task = .check) :
    (∀ failure, (i.run d).failure = some failure ↔ i.patterns d = .error failure) ∧
      ∀ list, i.patterns d = .ok list →
        (i.run d).failure = none ∧ (i.run d).stdout = checkText list := by
  cases hp : i.patterns d with
  | error failure =>
    rw [failure_run_of_patterns_error hp]
    simp
  | ok list =>
    have hrun : i.perform.run ⟨d, ""⟩ = .ok () ⟨d, checkText list⟩ := by
      rw [run_perform_of_patterns hp, carryOut, checks]
      dsimp only
      rw [Action.run_check, String.empty_append]
    simp [run, hrun]

/-- What is a failure of a check is one of every selection with the same configuration and the same
patterns, before that opens its table, and a selection has no other failure so early. If there is
none, the check tells with how many patterns the selection goes on. -/
theorem run_check_foretells_select (level : EventLevel) (config : Option String)
    (source : PatternSource) (points : String) (search : Bool) (output : Option String)
    (d : Directory) :
    let check : Invocation := ⟨level, config, source, .check⟩
    let select : Invocation := ⟨level, config, source, .select points search output⟩
    (∀ failure, (check.run d).failure = some failure ↔ select.FailsEarly d failure) ∧
    (∀ failure, (check.run d).failure = some failure → (select.run d).failure = some failure) ∧
    ((check.run d).failure = none → ∃ list, select.prepare.run ⟨d, ""⟩ = .ok list ⟨d, ""⟩ ∧
      select.perform.run ⟨d, ""⟩ = (Action.select list points output).run ⟨d, ""⟩ ∧
      (Text.lines (check.run d).stdout.toList).getLast? =
        some (toString list.size ++ " pattern(s) OK").toList) := by
  intro check select
  obtain ⟨hfails, hprints⟩ := @run_of_check check d rfl
  have hcheck : check.patterns d = select.givenPatterns d := patterns_eq_givenPatterns rfl
  have hselect := select.patterns_eq d
  have hiff : ∀ failure,
      check.patterns d = .error failure ↔ select.patterns d = .error failure := by
    intro failure
    rw [hcheck, hselect]
    cases select.givenPatterns d <;> simp [Except.map]
  refine ⟨?_, ?_, ?_⟩
  · intro failure
    rw [hfails, hiff, failsEarly_iff]
  · intro failure h
    exact failure_run_of_patterns_error ((hiff failure).mp ((hfails failure).mp h))
  · intro hnone
    cases hp : check.patterns d with
    | error failure =>
      rw [(hfails failure).mpr hp] at hnone
      cases hnone
    | ok list =>
      have hgiven : select.givenPatterns d = .ok list := hcheck.symm.trans hp
      rw [hgiven] at hselect
      have hsize : (if select.task.searches then list.inMode .search else list).size =
          list.size := by
        split_ifs
        · exact list.size_inMode .search
        · rfl
      refine ⟨_, ?_, run_perform_of_patterns hselect, ?_⟩
      · rw [run_prepare, hselect]
        rfl
      · rw [hsize, (hprints list hp).2]
        exact getLast?_lines_checkText list

end Invocation

end Command

end PointSelect
