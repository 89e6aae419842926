import PointSelect.Proofs.Command.Stages
import PointSelect.Proofs.Directory
import PointSelect.Proofs.SelectionList.Composition

namespace PointSelect

namespace SelectionList

section

variable {config : SelectionConfig}

theorem compile_empty (o : MatchOptions) : Pattern.compile o "" = .ok ⟨none, o⟩ := by
  rw [Pattern.compile]
  rfl

/-- An empty line behind the others puts no pattern on the list. -/
theorem map_ofPatterns_compileLines_concat_nil (first : Nat) (lines : List (List Char)) :
    (compileLines config first (lines ++ [[]])).map ofPatterns =
      (compileLines config first lines).map ofPatterns := by
  have hempty : Pattern.compile config.matching (.ofList []) = .ok ⟨none, config.matching⟩ :=
    compile_empty config.matching
  have hr : readable config.matching [[]] = [⟨none, config.matching⟩] := by
    rw [readable_cons, hempty]
    rfl
  have hf : fatal? config (first + lines.length) [[]] = none := by
    simp [fatal?, hempty, faults]
  have hfatal : fatal? config first (lines ++ [[]]) = fatal? config first lines := by
    rw [fatal?] at hf ⊢
    rw [faults_append]
    split_ifs with hs
    · rw [fatal?, if_pos hs]
    · rw [if_neg hs, List.head?_eq_none_iff] at hf
      rw [hf, List.append_nil, fatal?, if_neg hs]
  have hp : ofPatterns (readable config.matching (lines ++ [[]])) =
      ofPatterns (readable config.matching lines) := by
    rw [readable_append, hr]
    simp [ofPatterns, Pattern.isDegenerate]
  rw [compileLines_eq, compileLines_eq, hfatal]
  cases fatal? config first lines with
  | none => exact congrArg Except.ok hp
  | some e => rfl

theorem compileLines_of_sameUpToReturn (first : Nat) {ls ls' : List (List Char)}
    (h : List.Forall₂ Text.SameUpToReturn ls ls') :
    compileLines config first ls = compileLines config first ls' := by
  have hm : ls.map Pattern.stripChars = ls'.map Pattern.stripChars := by
    induction h with
    | nil => rfl
    | cons hl _ ih => rw [List.map_cons, List.map_cons, stripChars_of_sameUpToReturn hl, ih]
  rw [← compileLines_map_stripChars, hm, compileLines_map_stripChars]

/-- A text is read as the lines that were put on it, whatever they end with. -/
theorem parse_of_onLines {ls : List (List Char)} {text : String} (h : ∀ l ∈ ls, '\n' ∉ l)
    (on : Text.OnLines ls text.toList) :
    parse config text = (compileLines config 1 ls).map ofPatterns := by
  rw [parse]
  rcases Text.lines_of_onLines h on with hl | hl
  · rw [compileLines_of_sameUpToReturn 1 hl]
  · rw [← map_ofPatterns_compileLines_concat_nil, compileLines_of_sameUpToReturn 1 hl]

/-- Lines that are read one by one up to the first error, against patterns that are all compiled:
the same patterns come of them or the same error, which has the number of its line. -/
theorem compileLines_eq_mapM (strict : config.skipInvalid = false) (first : Nat)
    (patterns : List String) :
    let compile := Pattern.compile config.matching
    (∃ ps, patterns.mapM compile = .ok ps ∧
      compileLines config first (patterns.map String.toList) = .ok ps) ∨
    ∃ before p after e, patterns = before ++ p :: after ∧ (∀ q ∈ before, ∃ r, compile q = .ok r) ∧
      compile p = .error e ∧ patterns.mapM compile = .error e ∧
      compileLines config first (patterns.map String.toList) =
        .error ⟨first + before.length, e⟩ := by
  intro compile
  induction patterns generalizing first with
  | nil => exact .inl ⟨[], rfl, rfl⟩
  | cons p rest ih =>
    have hline : Pattern.compile config.matching (.ofList p.toList) = compile p := by
      rw [String.ofList_toList]
    cases hp : compile p with
    | error e =>
      refine .inr ⟨[], p, rest, e, rfl, by simp, hp, ?_, ?_⟩
      · rw [List.mapM_cons, hp]
        rfl
      · rw [List.map_cons, compileLines, hline, hp]
        simp [strict]
    | ok r =>
      have hlines : compileLines config first ((p :: rest).map String.toList) =
          (compileLines config (first + 1) (rest.map String.toList)).map (r :: ·) := by
        rw [List.map_cons, compileLines, hline, hp]
        rfl
      rcases ih (first + 1) with ⟨ps, hm, hc⟩ | ⟨before, q, after, e, hs, hb, hq, hm, hc⟩
      · refine .inl ⟨r :: ps, ?_, ?_⟩
        · rw [List.mapM_cons, hp, hm]
          rfl
        · rw [hlines, hc]
          rfl
      · refine .inr ⟨p :: before, q, after, e, ?_, ?_, hq, ?_, ?_⟩
        · rw [hs, List.cons_append]
        · simpa using ⟨⟨r, hp⟩, hb⟩
        · rw [List.mapM_cons, hp, hm]
          rfl
        · rw [hlines, hc, List.length_cons, Nat.add_right_comm, Nat.add_assoc]
          rfl

end

end SelectionList

namespace Command

/-- The same failure, or the error of a pattern without and with the number of its line. -/
inductive Failure.SameError : Failure → Failure → Prop where
  | same (failure : Failure) : SameError failure failure
  | numbered (e : PatternError) (line : Nat) : SameError (.pattern e) (.selection (.line ⟨line, e⟩))

/-- Two runs that print the same and leave the same files, with the same error if they fail. -/
structure Outcome.EndsAs (given file : Outcome) : Prop where
  stdout : file.stdout = given.stdout
  directory : file.directory = given.directory
  failure : Option.Rel Failure.SameError given.failure file.failure

section

variable {d : Directory} {path : String} {patterns : List String} {text : String}

/-- Patterns on the lines of a file build the list that they build when they are given. -/
theorem PatternSource.build_file_eq_given (oneLine : ∀ p ∈ patterns, '\n' ∉ p.toList)
    (onLines : Text.OnLines (patterns.map String.toList) text.toList)
    (stored : d.open? path = .ok (some (Text.Utf8.encodeString text))) {config : SelectionConfig}
    (strict : config.skipInvalid = false) :
    (∃ list, (given patterns).build d config = .ok list ∧ (file path).build d config = .ok list) ∨
    ∃ before p after e, patterns = before ++ p :: after ∧
      (∀ q ∈ before, ∃ r, Pattern.compile config.matching q = .ok r) ∧
      Pattern.compile config.matching p = .error e ∧
      (given patterns).build d config = .error (.pattern e) ∧
      (file path).build d config = .error (.selection (.line ⟨before.length + 1, e⟩)) := by
  have hfeed : ∀ l ∈ patterns.map String.toList, '\n' ∉ l := by simpa using oneLine
  have hread : d.readText path = .ok text := Directory.readText_eq_ok stored
  have hfile : (file path).build d config =
      (((SelectionList.compileLines config 1 (patterns.map String.toList)).map
        SelectionList.ofPatterns).mapError SelectionError.line).mapError Failure.selection := by
    rw [build, SelectionList.load, hread, ← SelectionList.parse_of_onLines hfeed onLines]
  rcases SelectionList.compileLines_eq_mapM strict 1 patterns with
    ⟨ps, hm, hc⟩ | ⟨before, p, after, e, hs, hb, hp, hm, hc⟩
  · refine .inl ⟨.ofPatterns ps, ?_, ?_⟩
    · rw [build, hm]
      rfl
    · rw [hfile, hc]
      rfl
  · refine .inr ⟨before, p, after, e, hs, hb, hp, ?_, ?_⟩
    · rw [build, hm]
      rfl
    · rw [hfile, hc, Nat.add_comm]
      rfl

namespace Invocation

/-- The same run with its patterns read from a file. -/
def fromFile (i : Invocation) (path : String) : Invocation := { i with source := .file path }

variable {i : Invocation} {file : Invocation}

theorem FirstFailure.endsAs {failure failure' : Failure} (h : i.FirstFailure d failure)
    (hfile : file.FirstFailure d failure') (same : failure.SameError failure') :
    (i.run d).EndsAs (file.run d) := by
  obtain ⟨hf, ho, hd⟩ := h.run_eq
  obtain ⟨hf', ho', hd'⟩ := hfile.run_eq
  refine ⟨by rw [ho, ho'], by rw [hd, hd'], ?_⟩
  rw [hf, hf']
  exact .some same

theorem Completes.endsAs {w : World} (h : i.Completes d w) (hfile : file.Completes d w) :
    (i.run d).EndsAs (file.run d) := by
  obtain ⟨hf, ho, hd⟩ := h.run_eq
  obtain ⟨hf', ho', hd'⟩ := hfile.run_eq
  refine ⟨by rw [ho, ho'], by rw [hd, hd'], ?_⟩
  rw [hf, hf']
  exact .none

/-- Of the source of its patterns a run knows the list only that was built. -/
theorem run_endsAs_of_build (hconfig : file.configOf d = i.configOf d) (htask : file.task = i.task)
    (hbuild : ∀ config, i.configOf d = .ok config →
      (∃ list, i.source.build d config = .ok list ∧ file.source.build d config = .ok list) ∨
      ∃ f f', i.source.build d config = .error f ∧ file.source.build d config = .error f' ∧
        f.SameError f') :
    (i.run d).EndsAs (file.run d) := by
  have hlist : ∀ {config list}, i.configOf d = .ok config → i.source.build d config = .ok list →
      file.source.build d config = .ok list := by
    intro config list configured built
    rcases hbuild config configured with ⟨l, hi, hl⟩ | ⟨f, -, hi, -, -⟩
    · rw [hl, ← hi, built]
    · rw [hi] at built
      cases built
  rcases exists_firstFailure_or_completes i d with ⟨failure, hf⟩ | ⟨w, hw⟩
  · cases id hf with
    | config bad => exact hf.endsAs (.config (hconfig.trans bad)) (.same _)
    | @patterns config failure configured bad =>
      rcases hbuild config configured with ⟨l, hi, -⟩ | ⟨f, f', hi, hfile, same⟩
      · rw [hi] at bad
        cases bad
      · obtain rfl : f = failure := Except.error.inj (hi.symm.trans bad)
        exact hf.endsAs (.patterns (hconfig.trans configured) hfile) same
    | table selects configured built bad =>
      exact hf.endsAs (.table (htask.trans selects) (hconfig.trans configured)
        (hlist configured built) bad) (.same _)
    | output selects configured built loaded bad =>
      exact hf.endsAs (.output (htask.trans selects) (hconfig.trans configured)
        (hlist configured built) loaded bad) (.same _)
  · cases id hw with
    | checked checks configured built =>
      exact hw.endsAs (.checked (htask.trans checks) (hconfig.trans configured)
        (hlist configured built))
    | printed selects configured built loaded =>
      exact hw.endsAs (.printed (htask.trans selects) (hconfig.trans configured)
        (hlist configured built) loaded)
    | saved selects configured built loaded created =>
      exact hw.endsAs (.saved (htask.trans selects) (hconfig.trans configured)
        (hlist configured built) loaded created)

/-- Patterns mean the same whether they are given or stand on the lines of a file: where errors are
not skipped they build the same list, or the first of them that is none makes both fail, the file
with the number of its line. So the runs print the same, whatever they do with the patterns. -/
theorem run_fromFile (oneLine : ∀ p ∈ patterns, '\n' ∉ p.toList)
    (onLines : Text.OnLines (patterns.map String.toList) text.toList)
    (stored : d.open? path = .ok (some (Text.Utf8.encodeString text))) :
    (∀ config : SelectionConfig, config.skipInvalid = false →
      let given := (PatternSource.given patterns).build d config
      let file := (PatternSource.file path).build d config
      (∃ list, given = .ok list ∧ file = .ok list) ∨
      ∃ before p after e, patterns = before ++ p :: after ∧
        (∀ q ∈ before, ∃ r, Pattern.compile config.matching q = .ok r) ∧
        Pattern.compile config.matching p = .error e ∧
        given = .error (.pattern e) ∧
        file = .error (.selection (.line ⟨before.length + 1, e⟩))) ∧
    ∀ i : Invocation, i.source = .given patterns →
      (∀ config, i.configOf d = .ok config → config.skipInvalid = false) →
      (i.run d).EndsAs ((i.fromFile path).run d) := by
  refine ⟨fun _ => PatternSource.build_file_eq_given oneLine onLines stored, ?_⟩
  intro i hsource hstrict
  refine run_endsAs_of_build rfl rfl ?_
  intro config configured
  have hstrict := hstrict config configured
  rw [hsource]
  refine (PatternSource.build_file_eq_given oneLine onLines stored hstrict).imp_right ?_
  rintro ⟨before, p, after, e, -, -, -, hgiven, hfile⟩
  exact ⟨_, _, hgiven, hfile, .numbered e _⟩

/-- The fourth pattern fails, behind one with a return at its end and two that mean nothing. -/
theorem run_fromFile_fourth_fails :
    let patterns := ["/a#1\r", "# all", "", "/b@x"]
    let text := "/a#1\r\n# all\n\n/b@x"
    let d : Directory := ⟨[(["p.sel"], Text.Utf8.encodeString text)], []⟩
    let i : Invocation := ⟨.warn, none, .given patterns, .check⟩
    let error : PatternError := ⟨"/b@x", .selector (.malformedNumber "x")⟩
    (∀ p ∈ patterns, '\n' ∉ p.toList) ∧
    Text.OnLines (patterns.map String.toList) text.toList ∧
    (∃ before p after e, patterns = before ++ p :: after ∧
      (PatternSource.file "p.sel").build d {} =
        .error (.selection (.line ⟨before.length + 1, e⟩))) ∧
    (i.run d).EndsAs ((i.fromFile "p.sel").run d) ∧
    (i.run d).failure = some (.pattern error) ∧
    ((i.fromFile "p.sel").run d).failure = some (.selection (.line ⟨4, error⟩)) := by
  intro patterns text d i error
  have oneLine : ∀ p ∈ patterns, '\n' ∉ p.toList := by decide
  have onLines : Text.OnLines (patterns.map String.toList) text.toList := .inr (by decide)
  have stored : d.open? "p.sel" = .ok (some (Text.Utf8.encodeString text)) := by decide +kernel
  have hfailure : (i.run d).failure = some (.pattern error) := by decide +kernel
  obtain ⟨hbuild, hrun⟩ := run_fromFile oneLine onLines stored
  have hconfig : ∀ config, i.configOf d = .ok config → config = {} :=
    fun config h => (Except.ok.inj h).symm
  refine ⟨oneLine, onLines, ?_, ?_, hfailure, by decide +kernel⟩
  · rcases hbuild {} rfl with ⟨list, hgiven, -⟩ | ⟨before, p, after, e, hs, -, -, -, hfile⟩
    · have hw : i.Completes d ⟨d, checkText list⟩ := .checked rfl rfl hgiven
      rw [hw.run_eq.1] at hfailure
      cases hfailure
    · exact ⟨before, p, after, e, hs, hfile⟩
  · refine hrun i rfl ?_
    intro config configured
    rw [hconfig config configured]

end Invocation

end

end Command

end PointSelect
