import PointSelect.Proofs.Pattern.PathMode
import PointSelect.Proofs.SelectionList.Selection
import PointSelect.SelectionList.File

namespace PointSelect

/-- The same configuration with paths matched in another way. -/
def SelectionConfig.inMode (config : SelectionConfig) (mode : PathMode) : SelectionConfig :=
  { config with matching := config.matching.inMode mode }

namespace SelectionList

/-- The same patterns with paths matched in another way. -/
def inMode (list : SelectionList) (mode : PathMode) : SelectionList where
  patterns := list.patterns.map (·.inMode mode)
  live := by
    intro q hq
    obtain ⟨p, hp, rfl⟩ := List.mem_map.mp hq
    exact list.live p hp

theorem size_inMode (list : SelectionList) (mode : PathMode) :
    (list.inMode mode).size = list.size := List.length_map _

theorem ofPatterns_inMode (ps : List Pattern) (mode : PathMode) :
    ofPatterns (ps.map (·.inMode mode)) = (ofPatterns ps).inMode mode := by
  have h : (ofPatterns (ps.map (·.inMode mode))).patterns =
      ((ofPatterns ps).inMode mode).patterns := List.filter_map
  generalize ofPatterns (ps.map (·.inMode mode)) = a, (ofPatterns ps).inMode mode = b at h
  obtain ⟨a, ha⟩ := a
  obtain ⟨b, hb⟩ := b
  obtain rfl : a = b := h
  rfl

section

variable (config : SelectionConfig) (mode : PathMode)

theorem compileLines_inMode (first : Nat) (lines : List (List Char)) :
    compileLines (config.inMode mode) first lines =
      (compileLines config first lines).map (List.map (·.inMode mode)) := by
  induction lines generalizing first with
  | nil => rfl
  | cons line rest ih =>
    have hline : Pattern.compile (config.inMode mode).matching (.ofList line) =
        (Pattern.compile config.matching (.ofList line)).map (·.inMode mode) :=
      Pattern.compile_inMode config.matching mode (.ofList line)
    have hskip : (config.inMode mode).skipInvalid = config.skipInvalid := rfl
    rw [compileLines, compileLines, hline, ih, hskip]
    cases Pattern.compile config.matching (.ofList line) with
    | ok p => cases compileLines config (first + 1) rest <;> rfl
    | error e => cases config.skipInvalid <;> rfl

theorem parse_inMode (text : String) :
    parse (config.inMode mode) text = (parse config text).map (·.inMode mode) := by
  rw [parse, parse, compileLines_inMode]
  cases compileLines config 1 (Text.lines text.toList) with
  | ok ps => exact congrArg Except.ok (ofPatterns_inMode ps mode)
  | error e => rfl

theorem load_inMode (d : Directory) (path : String) :
    load d (config.inMode mode) path = (load d config path).map (·.inMode mode) := by
  rw [load, load]
  cases d.readText path with
  | error e => rfl
  | ok text =>
    simp only [parse_inMode]
    cases parse config text <;> rfl

end

theorem accepts_search {list : SelectionList} {x : Point} (h : list.accepts x = true) :
    (list.inMode .search).accepts x = true := by
  obtain ⟨p, hp, ha⟩ := List.any_eq_true.mp h
  exact List.any_eq_true.mpr ⟨_, List.mem_map_of_mem hp, Pattern.accepts_search ha⟩

/-- A search leaves out no point that is selected in another way. -/
theorem select_sublist_search {α : Type} (list : SelectionList) (toPoint : α → Point)
    (points : List α) :
    (list.select toPoint points).Sublist ((list.inMode .search).select toPoint points) :=
  List.monotone_filter_right points fun _ h => accepts_search h

end SelectionList

end PointSelect
