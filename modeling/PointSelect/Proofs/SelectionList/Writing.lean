import PointSelect.Proofs.Pattern.NormalForm
import PointSelect.Proofs.SelectionList.Reading
import PointSelect.Proofs.Text.Lines
import Mathlib.Data.List.Forall2

namespace PointSelect

namespace Pattern

/-- What is left of a line stays whole on a line of its own. -/
theorem oneLine_stripChars {line : List Char} (h : '\n' ∉ line) :
    Text.OneLine (stripChars line) := by
  refine ⟨fun hm => h ((stripChars_sublist line).subset hm), ?_⟩
  intro hl
  have hb : Text.isBlank '\r' = false := (Text.trim_trimmed _).last '\r' hl
  cases hb

end Pattern

namespace SelectionList

theorem ofPatterns_patterns (list : SelectionList) : ofPatterns list.patterns = list := by
  obtain ⟨ps, live⟩ := list
  have h : ps.filter (fun p => !p.isDegenerate) = ps :=
    List.filter_eq_self.mpr fun p hp => by simp [live p hp]
  simp only [ofPatterns, h]

theorem toList_write (list : SelectionList) :
    list.write.toList =
      (list.patterns.map fun p => p.write.toList).flatMap (· ++ ['\n']) := by
  simp [write, String.toList_join, List.flatMap_map]

theorem lines_write {config : SelectionConfig} {text : String} {list : SelectionList}
    (h : parse config text = .ok list) :
    Text.lines list.write.toList = list.patterns.map fun p => p.write.toList := by
  rw [toList_write]
  apply Text.lines_unlines
  intro l hl
  obtain ⟨p, hp, rfl⟩ := List.mem_map.mp hl
  obtain ⟨line, hm, hc⟩ := exists_line_of_mem_parse h hp
  rw [Pattern.write_of_compile hc, Pattern.stripComment, String.toList_ofList,
    String.toList_ofList]
  exact Pattern.oneLine_stripChars (Text.feed_notMem_of_mem_lines hm)

/-- Lines that are patterns are read as those, whether errors are skipped or not. -/
theorem compileLines_map (config : SelectionConfig) {ps : List Pattern}
    {text : Pattern → List Char}
    (h : ∀ p ∈ ps, Pattern.compile config.matching (.ofList (text p)) = .ok p) (first : Nat) :
    compileLines config first (ps.map text) = .ok ps := by
  induction ps generalizing first with
  | nil => rfl
  | cons p ps ih =>
    have hp := h p List.mem_cons_self
    have hps := ih fun q hq => h q (List.mem_cons_of_mem _ hq)
    simp [compileLines, hp, hps]

/-- A list that was read is read again from what it writes. -/
theorem parse_write_eq {config : SelectionConfig} {text : String} {list : SelectionList}
    (h : parse config text = .ok list) (skip : Bool) :
    parse { config with skipInvalid := skip } list.write = .ok list := by
  have hc : ∀ p ∈ list.patterns,
      Pattern.compile config.matching (.ofList p.write.toList) = .ok p := by
    intro p hp
    obtain ⟨line, -, hl⟩ := exists_line_of_mem_parse h hp
    rw [String.ofList_toList]
    exact Pattern.compile_write hl
  rw [parse, lines_write h, compileLines_map { config with skipInvalid := skip } hc]
  exact congrArg Except.ok (ofPatterns_patterns list)

/-- Writing a list and reading it again loses nothing, whether lines that are no patterns are
skipped the second time or not: the members agree one by one in all that they show, and both lists
write the same text and select the same points. -/
theorem parse_write {config : SelectionConfig} {text : String} {list : SelectionList}
    (h : parse config text = .ok list) (skip : Bool) :
    ∃ again, parse { config with skipInvalid := skip } list.write = .ok again ∧
      again.size = list.size ∧ List.Forall₂ Pattern.SameFields again.patterns list.patterns ∧
      again.write = list.write ∧
      ∀ (α : Type) (toPoint : α → Point) (points : List α),
        again.select toPoint points = list.select toPoint points := by
  refine ⟨list, parse_write_eq h skip, rfl, ?_, rfl, fun _ _ _ => rfl⟩
  exact List.forall₂_same.mpr fun p _ => Pattern.SameFields.refl p

/-- Comments, a blank line, a line that is no pattern and words after a selector. -/
theorem parse_write_mixed : ∃ list,
    parse ⟨{}, true⟩ "/a#1 # first\r\n\n/(\n/b@:2 rest" = .ok list ∧
    list.write = "/a#1\n/b@:2 rest\n" ∧
    ∃ again, parse ⟨{}, false⟩ "/a#1\n/b@:2 rest\n" = .ok again ∧
      again.write = "/a#1\n/b@:2 rest\n" := by
  have h := parse_skipping {} "/a#1 # first\r\n\n/(\n/b@:2 rest"
  have hw : (ofPatterns (readable {} (Text.lines
      "/a#1 # first\r\n\n/(\n/b@:2 rest".toList))).write = "/a#1\n/b@:2 rest\n" := by
    decide +kernel
  obtain ⟨again, hp, -, -, hw', -⟩ := parse_write h false
  rw [hw] at hp hw'
  exact ⟨_, h, hw, again, hp, hw'⟩

end SelectionList

end PointSelect
