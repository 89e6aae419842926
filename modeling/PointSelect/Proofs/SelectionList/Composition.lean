import PointSelect.Proofs.SelectionList.Reading
import PointSelect.Proofs.Text.Lines
import Mathlib.Data.List.Forall2

namespace PointSelect.SelectionList

theorem readable_append (o : MatchOptions) (as bs : List (List Char)) :
    readable o (as ++ bs) = readable o as ++ readable o bs := by
  simp [readable]

theorem faults_append (o : MatchOptions) (first : Nat) (as bs : List (List Char)) :
    faults o first (as ++ bs) = faults o first as ++ faults o (first + as.length) bs := by
  simp [faults, List.zipIdx_append]

/-- Lines put before move the numbers of the errors and nothing else. -/
theorem faults_add (o : MatchOptions) (first count : Nat) (lines : List (List Char)) :
    faults o (first + count) lines = (faults o first lines).map (·.later count) := by
  induction lines generalizing first with
  | nil => rfl
  | cons line rest ih =>
    rw [faults_cons, faults_cons, Nat.add_right_comm, ih]
    cases Pattern.compile o (.ofList line) with
    | ok p => rfl
    | error e => rfl

theorem fatal?_append (config : SelectionConfig) (first : Nat) (as bs : List (List Char)) :
    fatal? config first (as ++ bs) =
      (fatal? config first as).or ((fatal? config first bs).map (·.later as.length)) := by
  cases hs : config.skipInvalid with
  | true => simp [fatal?, hs]
  | false => simp [fatal?, hs, faults_append, faults_add, List.head?_append]

theorem patterns_ofPatterns_append (ps qs : List Pattern) :
    (ofPatterns (ps ++ qs)).patterns = (ofPatterns ps).patterns ++ (ofPatterns qs).patterns :=
  List.filter_append ps qs

/-- Of a line only what is left of it without its comment counts. -/
theorem compileLines_map_stripChars (config : SelectionConfig) (first : Nat)
    (lines : List (List Char)) :
    compileLines config first (lines.map Pattern.stripChars) = compileLines config first lines := by
  induction lines generalizing first with
  | nil => rfl
  | cons line rest ih =>
    simp [compileLines, Pattern.compile_ofList_stripChars, ih]

theorem stripChars_of_sameUpToReturn {l l' : List Char} (h : Text.SameUpToReturn l l') :
    Pattern.stripChars l = Pattern.stripChars l' := by
  rcases h with rfl | rfl
  · rfl
  · have hr : ∀ c ∈ ['\r'], Text.isBlank c = true := by
      intro c hc
      rw [List.mem_singleton.mp hc]
      rfl
    exact (Pattern.stripChars_append_blanks hr l).symm

theorem map_stripChars_lines_withReturns (cs : List Char) :
    (Text.lines (Text.withReturns cs)).map Pattern.stripChars =
      (Text.lines cs).map Pattern.stripChars := by
  have h := (Text.lines_withReturns cs).imp fun _ _ => stripChars_of_sameUpToReturn
  generalize Text.lines cs = ls, Text.lines (Text.withReturns cs) = ls' at h
  induction h with
  | nil => rfl
  | cons hl _ ih => rw [List.map_cons, List.map_cons, hl, ih]

theorem parse_withReturns (config : SelectionConfig) (text : String) :
    parse config (.ofList (Text.withReturns text.toList)) = parse config text := by
  rw [parse, parse, String.toList_ofList, ← compileLines_map_stripChars,
    map_stripChars_lines_withReturns, compileLines_map_stripChars]

/-- Behind a text that ends its last line a list is read as if it stood alone, only that its errors
lie so many lines further down. And it makes no difference whether lines end with a carriage return
before the line feed. -/
theorem parse_by_lines (config : SelectionConfig) :
    (∀ a b : String, Text.EndsLine a.toList →
      (∀ e, parse config a = .error e → parse config (a ++ b) = .error e) ∧
      ∀ la, parse config a = .ok la →
        (∀ e, parse config b = .error e → parse config (a ++ b) =
          .error ⟨e.line + (Text.lines a.toList).length, e.error⟩) ∧
        ∀ lb, parse config b = .ok lb → ∃ list, parse config (a ++ b) = .ok list ∧
          list.patterns = la.patterns ++ lb.patterns) ∧
    ∀ text, parse config (.ofList (Text.withReturns text.toList)) = parse config text := by
  refine ⟨?_, parse_withReturns config⟩
  intro a b ha
  have hl : Text.lines (a ++ b).toList = Text.lines a.toList ++ Text.lines b.toList := by
    rw [String.toList_append, Text.lines_append ha]
  have hfatal := fatal?_append config 1 (Text.lines a.toList) (Text.lines b.toList)
  rw [← hl] at hfatal
  refine ⟨?_, ?_⟩
  · intro e he
    rw [parse_eq_error_iff] at he ⊢
    rw [hfatal, he, Option.some_or]
  · intro la hla
    obtain ⟨ha', rfl⟩ := parse_eq_ok_iff.mp hla
    rw [ha', Option.none_or] at hfatal
    refine ⟨?_, ?_⟩
    · intro e he
      rw [parse_eq_error_iff] at he ⊢
      rw [hfatal, he]
      rfl
    · intro lb hlb
      obtain ⟨hb, rfl⟩ := parse_eq_ok_iff.mp hlb
      rw [hb, Option.map_none] at hfatal
      refine ⟨_, parse_eq_ok_iff.mpr ⟨hfatal, rfl⟩, ?_⟩
      rw [hl, readable_append, patterns_ofPatterns_append]

/-- An error behind a text of one line: its number is one more than in the text of its own. -/
theorem parse_by_lines_second_fails :
    let error : PatternError := ⟨"@x", .selector (.malformedNumber "x")⟩
    Text.EndsLine "/a\n".toList ∧ (∃ la, parse {} "/a\n" = .ok la) ∧
    parse {} "/b\r\n@x" = .error ⟨2, error⟩ ∧
    parse {} ("/a\n" ++ "/b\r\n@x") = .error ⟨3, error⟩ := by
  intro error
  have ha : Text.EndsLine "/a\n".toList := by
    intro c hc
    have hl : "/a\n".toList.getLast? = some '\n' := by decide
    simpa [hl, eq_comm] using hc
  have hfirst : fatal? {} 1 (Text.lines "/a\n".toList) = none := by decide +kernel
  have hsecond : fatal? {} 1 (Text.lines "/b\r\n@x".toList) = some ⟨2, error⟩ := by
    decide +kernel
  have hla := parse_eq_ok_iff.mpr ⟨hfirst, rfl⟩
  have hb := parse_eq_error_iff.mpr hsecond
  refine ⟨ha, ⟨_, hla⟩, hb, ?_⟩
  exact (((parse_by_lines {}).1 _ _ ha).2 _ hla).1 _ hb

end PointSelect.SelectionList
