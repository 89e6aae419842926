import PointSelect.Proofs.Command.Stages
import PointSelect.Proofs.Directory

namespace PointSelect

namespace Directory

section

variable {d d' : Directory} {path : String} (created : d.create path = .ok d')
include created

/-- What is written to a file right after it was created is all that it holds. -/
theorem get?_append_of_create (content : Text.Bytes) (place : Place) :
    (d'.append (Place.ofPath path) content).get? place =
      if place = Place.ofPath path then some content else d.get? place := by
  obtain rfl := eq_put_of_create created
  rw [get?_append, get?_put, get?_put, if_pos rfl, Option.getD_some, List.nil_append]
  split_ifs <;> rfl

theorem readText_append_of_create (text : String) :
    (d'.append (Place.ofPath path) (Text.Utf8.encodeString text)).readText path = .ok text := by
  apply readText_eq_ok
  have hg := get?_append_of_create created (Text.Utf8.encodeString text) (Place.ofPath path)
  rw [if_pos rfl] at hg
  have hn : Place.namesDirectory path = false := namesDirectory_of_create created
  simp [open?, hg, hn]

end

end Directory

namespace Command.Invocation

/-- The same run with its records written to a file. -/
def withOutput (i : Invocation) (path : String) : Invocation :=
  { i with task := match i.task with
    | .select points search _ => .select points search (some path)
    | .check => .check }

theorem task_withOutput {i : Invocation} {points : String} {search : Bool} {output : Option String}
    (selects : i.task = .select points search output) (path : String) :
    (i.withOutput path).task = .select points search (some path) := by
  rw [withOutput, selects]

/-- The configuration does not depend on where the records go. -/
theorem configOf_withOutput (i : Invocation) (path : String) (d : Directory) :
    (i.withOutput path).configOf d = i.configOf d := by
  obtain ⟨level, config, source, task⟩ := i
  cases task with
  | check => rfl
  | select points search output => cases search <;> rfl

/-- The table is read before the output file is created, so it may be that file. -/
theorem completes_withOutput {i : Invocation} {d created : Directory} {points path : String}
    {search : Bool} {w : World} (selects : i.task = .select points search none)
    (h : i.Completes d w) (creatable : d.create path = .ok created) :
    (i.withOutput path).Completes d
      ⟨created.append (Place.ofPath path) (Text.Utf8.encodeString w.stdout), ""⟩ := by
  cases h with
  | checked checks configured built =>
    rw [checks] at selects
    cases selects
  | saved selects' configured built loaded created =>
    rw [selects'] at selects
    cases selects
  | printed selects' configured built loaded =>
    refine .saved (task_withOutput selects' path) ?_ built loaded creatable
    rw [configOf_withOutput, configured]

/-- Records that can be printed can be written to any file that can be created, be it one that is
read in the same run. Then nothing is printed, the file holds what was printed else, and every other
file stays as it was. -/
theorem run_withOutput {i : Invocation} {d created : Directory} {points path : String}
    {search : Bool} (selects : i.task = .select points search none)
    (succeeds : (i.run d).failure = none) (creatable : d.create path = .ok created) :
    let printed := i.run d
    let saved := (i.withOutput path).run d
    saved.failure = none ∧ saved.stdout = "" ∧
    saved.directory.get? (Place.ofPath path) = some (Text.Utf8.encodeString printed.stdout) ∧
    saved.directory.readText path = .ok printed.stdout ∧
    ∀ place, place ≠ Place.ofPath path → saved.directory.get? place = d.get? place := by
  intro printed saved
  obtain ⟨w, hw⟩ := exists_completes_of_failure_run_eq_none succeeds
  have hprinted : printed.stdout = w.stdout := hw.run_eq.2.1
  obtain ⟨hnone, hempty, hdir⟩ := (completes_withOutput selects hw creatable).run_eq
  rw [hprinted]
  refine ⟨hnone, hempty, ?_, ?_, ?_⟩
  · rw [hdir, Directory.get?_append_of_create creatable, if_pos rfl]
  · rw [hdir]
    exact Directory.readText_append_of_create creatable w.stdout
  · intro place hne
    rw [hdir, Directory.get?_append_of_create creatable, if_neg hne]

/-- The output file is the point table itself. -/
theorem run_withOutput_table :
    let table := Text.Utf8.encodeString "path,n,xmin,xmax\n/a,0,0,1\n/b,0,0,1\n"
    let selection := Text.Utf8.encodeString "/b\n"
    let d : Directory := ⟨[(["t.csv"], table), (["p.sel"], selection)], []⟩
    let i : Invocation := ⟨.warn, none, .file "p.sel", .select "t.csv" false none⟩
    let o := (i.withOutput "t.csv").run d
    (i.run d).failure = none ∧ (∃ created, d.create "t.csv" = .ok created) ∧
    o.failure = none ∧ o.stdout = "" ∧ o.directory.readText "t.csv" = .ok (i.run d).stdout ∧
    o.directory.get? ["p.sel"] = some selection := by
  intro table selection d i o
  have succeeds : (i.run d).failure = none := by decide +kernel
  have creatable : d.create "t.csv" = .ok (d.put (Place.ofPath "t.csv") []) :=
    Directory.create_of_isSome (by decide +kernel) (by decide +kernel)
  have hplace : Place.ofPath "t.csv" = ["t.csv"] := by decide +kernel
  obtain ⟨hnone, hempty, -, htext, hother⟩ := run_withOutput rfl succeeds creatable
  refine ⟨succeeds, ⟨_, creatable⟩, hnone, hempty, htext, ?_⟩
  rw [hother ["p.sel"] (by rw [hplace]; decide)]
  decide +kernel

end Command.Invocation

end PointSelect
