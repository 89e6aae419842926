import PointSelect.SelectionList
import PointSelect.Proofs.Pattern.Reading

namespace PointSelect

namespace Pattern

theorem compile_ofList_stripChars (o : MatchOptions) (line : List Char) :
    compile o (.ofList (stripChars line)) = compile o (.ofList line) := by
  have h := compile_stripComment o (.ofList line)
  rwa [stripComment, String.toList_ofList] at h

/-- Reading a line warns of nothing. -/
theorem level_of_mem_compileEvents {o : MatchOptions} {line : String} {x : Event}
    (h : x ∈ compileEvents o line) : x.level ≠ .warn := by
  unfold compileEvents at h
  split at h
  · simp at h
  · simp_all [Event.level]
  · rcases List.mem_append.mp h with hm | hm
    · split at hm
      · simp at hm
      · simp_all [Event.level]
    · simp_all [Event.level]

end Pattern

namespace Event

@[simp]
theorem level_skippedLine (line : Nat) (e : PatternError) : (skippedLine line e).level = .warn :=
  rfl

@[simp]
theorem level_parsedList (count : Nat) : (parsedList count).level = .debug := rfl

end Event

namespace LineError

/-- The error when so many lines stand before. -/
def later (e : LineError) (lines : Nat) : LineError := ⟨e.line + lines, e.error⟩

end LineError

namespace SelectionList

/-- The patterns on those lines that are patterns. -/
def readable (o : MatchOptions) (lines : List (List Char)) : List Pattern :=
  lines.filterMap fun line => (Pattern.compile o (.ofList line)).toOption

/-- The errors on those lines that are none, with the numbers of the lines. -/
def faults (o : MatchOptions) (first : Nat) (lines : List (List Char)) : List LineError :=
  (lines.zipIdx first).filterMap fun (line, n) =>
    match Pattern.compile o (.ofList line) with
    | .ok _ => none
    | .error e => some ⟨n, e⟩

/-- The error that makes the list fail. -/
def fatal? (config : SelectionConfig) (first : Nat) (lines : List (List Char)) :
    Option LineError :=
  if config.skipInvalid then none else (faults config.matching first lines).head?

theorem faults_cons (o : MatchOptions) (first : Nat) (line : List Char)
    (rest : List (List Char)) :
    faults o first (line :: rest) = match Pattern.compile o (.ofList line) with
      | .ok _ => faults o (first + 1) rest
      | .error e => ⟨first, e⟩ :: faults o (first + 1) rest := by
  cases h : Pattern.compile o (.ofList line) <;> simp [faults, h]

theorem readable_cons (o : MatchOptions) (line : List Char) (rest : List (List Char)) :
    readable o (line :: rest) = match Pattern.compile o (.ofList line) with
      | .ok p => p :: readable o rest
      | .error _ => readable o rest := by
  cases h : Pattern.compile o (.ofList line) <;> simp [readable, h, Except.toOption]

/-- Reading the lines one by one comes to the same as reading them all and looking for the first
error that counts. -/
theorem compileLines_eq (config : SelectionConfig) (first : Nat) (lines : List (List Char)) :
    compileLines config first lines =
      (fatal? config first lines).elim (.ok (readable config.matching lines)) .error := by
  induction lines generalizing first with
  | nil => simp [compileLines, fatal?, faults, readable]
  | cons line rest ih =>
    rw [compileLines, ih]
    cases h : Pattern.compile config.matching (.ofList line) with
    | ok p =>
      -- the line is no error, so what counts is the first one of the rest
      have hf : fatal? config first (line :: rest) = fatal? config (first + 1) rest := by
        simp [fatal?, faults_cons, h]
      rw [hf]
      cases fatal? config (first + 1) rest with
      | none => simp [readable_cons, h]
      | some e => rfl
    | error e =>
      cases hs : config.skipInvalid with
      | true => simp [fatal?, hs, readable_cons, h]
      | false => simp [fatal?, hs, faults_cons, h]

theorem parse_eq (config : SelectionConfig) (text : String) :
    parse config text = (fatal? config 1 (Text.lines text.toList)).elim
      (.ok (ofPatterns (readable config.matching (Text.lines text.toList)))) .error := by
  rw [parse, compileLines_eq]
  cases fatal? config 1 (Text.lines text.toList) <;> rfl

theorem parse_skipping (o : MatchOptions) (text : String) :
    parse ⟨o, true⟩ text = .ok (ofPatterns (readable o (Text.lines text.toList))) :=
  parse_eq ⟨o, true⟩ text

theorem parse_eq_ok_iff {config : SelectionConfig} {text : String} {list : SelectionList} :
    parse config text = .ok list ↔ fatal? config 1 (Text.lines text.toList) = none ∧
      ofPatterns (readable config.matching (Text.lines text.toList)) = list := by
  rw [parse_eq]
  cases fatal? config 1 (Text.lines text.toList) <;> simp

theorem parse_eq_error_iff {config : SelectionConfig} {text : String} {e : LineError} :
    parse config text = .error e ↔ fatal? config 1 (Text.lines text.toList) = some e := by
  rw [parse_eq]
  cases fatal? config 1 (Text.lines text.toList) <;> simp

/-- Every pattern of a list stands on a line of the text. -/
theorem exists_line_of_mem_parse {config : SelectionConfig} {text : String} {list : SelectionList}
    (h : parse config text = .ok list) {p : Pattern} (hp : p ∈ list.patterns) :
    ∃ line ∈ Text.lines text.toList,
      Pattern.compile config.matching (.ofList line) = .ok p := by
  rw [← (parse_eq_ok_iff.mp h).2] at hp
  obtain ⟨line, hl, hc⟩ := List.mem_filterMap.mp (List.mem_filter.mp hp).1
  refine ⟨line, hl, ?_⟩
  cases hr : Pattern.compile config.matching (.ofList line) with
  | error e => simp [hr, Except.toOption] at hc
  | ok q => simpa [hr, Except.toOption] using hc

theorem mem_faults_iff {o : MatchOptions} {first : Nat} {lines : List (List Char)}
    {e : LineError} :
    e ∈ faults o first lines ↔ first ≤ e.line ∧ ∃ line, lines[e.line - first]? = some line ∧
      Pattern.compile o (.ofList line) = .error e.error := by
  rw [faults, List.mem_filterMap]
  constructor
  · rintro ⟨⟨line, n⟩, hm, he⟩
    obtain ⟨hn, hl⟩ := List.mk_mem_zipIdx_iff_le_and_getElem?_sub.mp hm
    cases hc : Pattern.compile o (.ofList line) with
    | ok p => simp [hc] at he
    | error x =>
      have hx : (⟨n, x⟩ : LineError) = e := by simpa [hc] using he
      subst hx
      exact ⟨hn, line, hl, hc⟩
  · rintro ⟨hn, line, hl, hc⟩
    refine ⟨(line, e.line), List.mk_mem_zipIdx_iff_le_and_getElem?_sub.mpr ⟨hn, hl⟩, ?_⟩
    simp [hc]

theorem faults_eq_nil_iff {o : MatchOptions} {first : Nat} {lines : List (List Char)} :
    faults o first lines = [] ↔
      ∀ line ∈ lines, ∀ e, Pattern.compile o (.ofList line) ≠ .error e := by
  induction lines generalizing first with
  | nil => simp [faults]
  | cons line rest ih =>
    rw [faults_cons]
    cases h : Pattern.compile o (.ofList line) with
    | ok p => simp [h, ih]
    | error e => simp [h]

/-- Of all errors the first one has the smallest number. -/
theorem line_le_of_head?_faults {o : MatchOptions} {first : Nat} {lines : List (List Char)}
    {e x : LineError} (he : (faults o first lines).head? = some e)
    (hx : x ∈ faults o first lines) : e.line ≤ x.line := by
  induction lines generalizing first with
  | nil => simp [faults] at hx
  | cons line rest ih =>
    have hle : first ≤ x.line := (mem_faults_iff.mp hx).1
    rw [faults_cons] at he hx
    cases h : Pattern.compile o (.ofList line) with
    | ok p =>
      rw [h] at he hx
      exact ih he hx
    | error y =>
      have hy : (⟨first, y⟩ : LineError) = e := by simpa [h] using he
      rw [← hy]
      exact hle

/-- Where errors are skipped there is one warning for each, and no other one. -/
theorem warnings_lineEvents (o : MatchOptions) (first : Nat) (lines : List (List Char)) :
    (lineEvents ⟨o, true⟩ first lines).filter (·.level = .warn) =
      (faults o first lines).map fun e => .skippedLine e.line e.error := by
  induction lines generalizing first with
  | nil => simp [lineEvents, faults]
  | cons line rest ih =>
    rw [faults_cons]
    cases h : Pattern.compile o (.ofList line) with
    | ok p =>
      have hq : (Pattern.compileEvents o (.ofList line)).filter (·.level = .warn) = [] := by
        simpa using fun x hx => Pattern.level_of_mem_compileEvents hx
      simp [lineEvents, h, hq, ih]
    | error e => simp [lineEvents, h, ih]

theorem warnings_parseEvents (o : MatchOptions) (text : String) :
    (parseEvents ⟨o, true⟩ text).filter (·.level = .warn) =
      (faults o 1 (Text.lines text.toList)).map fun e => .skippedLine e.line e.error := by
  simp [parseEvents, parse_skipping, warnings_lineEvents]

/-- A list that skips errors always comes about, with a warning for each line that is no pattern.
One that does not skip them comes about if there are none, and is the same then; else it fails with
the first of the errors. -/
theorem parse_strict_or_skipping (o : MatchOptions) (text : String) :
    let lines := Text.lines text.toList
    let skipping : SelectionConfig := ⟨o, true⟩
    let strict : SelectionConfig := ⟨o, false⟩
    let warnings := (parseEvents skipping text).filter (·.level = .warn)
    (∃ list, parse skipping text = .ok list ∧ list.patterns =
      (lines.filterMap fun line => (Pattern.compile o (.ofList line)).toOption).filter
        fun p => !p.isDegenerate) ∧
    warnings = (faults o 1 lines).map (fun e => .skippedLine e.line e.error) ∧
    ((∃ list, parse strict text = .ok list) ↔
      ∀ line ∈ lines, ∀ e, Pattern.compile o (.ofList line) ≠ .error e) ∧
    (∀ list, parse strict text = .ok list → parse skipping text = .ok list) ∧
    ∀ e, parse strict text = .error e →
      .skippedLine e.line e.error ∈ warnings ∧
      (∀ n x, .skippedLine n x ∈ warnings → e.line ≤ n) ∧
      1 ≤ e.line ∧ ∃ line, lines[e.line - 1]? = some line ∧
        Pattern.compile o (.ofList line) = .error e.error := by
  intro lines skipping strict warnings
  have hw : warnings = (faults o 1 lines).map fun e => .skippedLine e.line e.error :=
    warnings_parseEvents o text
  have hs : parse skipping text = .ok (ofPatterns (readable o lines)) := parse_skipping o text
  have hf : fatal? strict 1 lines = (faults o 1 lines).head? := rfl
  refine ⟨⟨_, hs, rfl⟩, hw, ?_, ?_, ?_⟩
  · have hnone : fatal? strict 1 lines = none ↔
        ∀ line ∈ lines, ∀ e, Pattern.compile o (.ofList line) ≠ .error e := by
      rw [hf, List.head?_eq_none_iff, faults_eq_nil_iff]
    rw [← hnone]
    exact ⟨fun ⟨list, h⟩ => (parse_eq_ok_iff.mp h).1, fun h => ⟨_, parse_eq_ok_iff.mpr ⟨h, rfl⟩⟩⟩
  · intro list h
    rw [hs, ← (parse_eq_ok_iff.mp h).2]
  · intro e h
    have hh : (faults o 1 lines).head? = some e := hf ▸ parse_eq_error_iff.mp h
    have hm : e ∈ faults o 1 lines := List.mem_of_head? hh
    rw [hw]
    refine ⟨List.mem_map_of_mem hm, ?_, mem_faults_iff.mp hm⟩
    intro n x hx
    obtain ⟨y, hy, heq⟩ := List.mem_map.mp hx
    obtain ⟨rfl, -⟩ := Event.skippedLine.inj heq
    exact line_le_of_head?_faults hh hy

end SelectionList

end PointSelect
