import PointSelect.Proofs.Command.Stages
import PointSelect.Proofs.Selector.Description
import PointSelect.Proofs.SelectionList.Writing

namespace PointSelect

namespace Text

theorem Printable.oneLine {l : List Char} (h : Printable l) : OneLine l :=
  ⟨h.notMem (by decide), fun hr => h.notMem (by decide) (List.mem_of_getLast? hr)⟩

theorem count_unlines (ls : List (List Char)) :
    (ls.flatMap (· ++ ['\n'])).count '\n' = ls.length + (ls.map (·.count '\n')).sum := by
  induction ls with
  | nil => rfl
  | cons l ls ih =>
    simp [ih]
    omega

end Text

namespace Pattern

/-- The line breaks in what a check shows of a pattern: those of its text, and those of its path
expression once more. -/
def breaks (p : Pattern) : Nat :=
  p.write.toList.count '\n' + (p.pathText?.getD "").toList.count '\n'

/-- A line break in the path expression of a pattern is one of its text too. -/
theorem breaks_eq_zero_iff {o : MatchOptions} {line : String} {p : Pattern}
    (h : compile o line = .ok p) : p.breaks = 0 ↔ '\n' ∉ p.write.toList := by
  rw [breaks, Nat.add_eq_zero_iff, List.count_eq_zero, List.count_eq_zero]
  refine ⟨And.left, fun hw => ⟨hw, ?_⟩⟩
  exact fun hm => hw ((pathText_sublist_of_compile h).subset hm)

theorem breaks_of_isDegenerate {p : Pattern} (h : p.isDegenerate = true) : p.breaks = 0 := by
  have hr : p.rule = none := Option.isNone_iff_eq_none.mp h
  simp [breaks, write, text?, pathText?, hr]

theorem forall_breaks_eq_zero_iff {o : MatchOptions} {lines : List String} {ps : List Pattern}
    (h : List.Forall₂ (fun line p => compile o line = .ok p) lines ps) :
    (∀ p ∈ ps, p.breaks = 0) ↔ ∀ line ∈ lines, '\n' ∉ (stripComment line).toList := by
  induction h with
  | nil => simp
  | cons hc _ ih =>
    rw [List.forall_mem_cons, List.forall_mem_cons, ih, breaks_eq_zero_iff hc,
      write_of_compile hc]

end Pattern

namespace Command

/-- What a check shows of a pattern, without the line feed behind it. -/
def report (p : Pattern) : List Char :=
  p.write.toList ++ '\t' :: ("path=" ++ p.pathText?.getD "").toList ++
    '\t' :: ("selector=" ++ p.selector.describe).toList

/-- What a check tells in the end, without the line feed behind it. -/
def summary (list : SelectionList) : List Char := (toString list.size ++ " pattern(s) OK").toList

section

variable (p : Pattern) (list : SelectionList)

theorem toList_checkLine : (checkLine p).toList = report p ++ ['\n'] := by
  simp [checkLine, report]

theorem toList_summaryLine : (summaryLine list).toList = summary list ++ ['\n'] := by
  simp [summaryLine, summary]

theorem toList_checkText : (checkText list).toList =
    (list.patterns.map report ++ [summary list]).flatMap (· ++ ['\n']) := by
  simp [checkText, String.toList_join, List.flatMap_map, toList_checkLine, toList_summaryLine]

theorem printable_selector : Text.Printable ("selector=" ++ p.selector.describe).toList := by
  rw [String.toList_append]
  exact Text.printable_append_iff.mpr ⟨by decide, p.selector.printable_describe⟩

/-- What follows the text and the path expression of a pattern has no line break. -/
theorem count_report : (report p).count '\n' = p.breaks := by
  have hs := List.count_eq_zero.mpr ((printable_selector p).notMem (c := '\n') (by decide))
  rw [report, List.count_append, List.count_cons_of_ne (by decide), hs]
  simp [Pattern.breaks]

theorem oneLine_report {p : Pattern} (h : p.breaks = 0) : Text.OneLine (report p) := by
  constructor
  · rw [← List.count_eq_zero, count_report, h]
  · -- the report ends in the description of the selector
    intro hr
    rw [report, List.getLast?_append_of_ne_nil _ (by simp)] at hr
    have hm : '\r' ∈ ("selector=" ++ p.selector.describe).toList := by
      simpa using List.mem_of_getLast? hr
    exact (printable_selector p).notMem (by decide) hm

theorem oneLine_summary : Text.OneLine (summary list) := by
  have hsize : (toString list.size).toList = Nat.toDigits 10 list.size := by
    simp [toString, Nat.repr]
  have hprintable : Text.Printable (summary list) := by
    rw [summary, String.toList_append, hsize]
    exact Text.printable_append_iff.mpr ⟨Text.printable_toDigits _, by decide⟩
  exact hprintable.oneLine

/-- The last line of a check tells how many patterns there are. -/
theorem getLast?_lines_checkText :
    (Text.lines (checkText list).toList).getLast? = some (summary list) := by
  rw [toList_checkText, List.flatMap_append, Text.lines_append (Text.endsLine_flatMap _),
    List.flatMap_singleton, Text.lines_line (oneLine_summary list)]
  simp [Text.lines]

/-- A check prints a line for each pattern, a further one for each line break in what it shows of
them, and the last line. -/
theorem length_lines_checkText : (Text.lines (checkText list).toList).length =
    list.size + 1 + (list.patterns.map Pattern.breaks).sum := by
  have hsummary : (summary list).count '\n' = 0 :=
    List.count_eq_zero.mpr (oneLine_summary list).noFeed
  have hcounts : ((list.patterns.map report ++ [summary list]).map (·.count '\n')).sum =
      (list.patterns.map Pattern.breaks).sum := by
    simp [hsummary, Function.comp_def, count_report]
  rw [toList_checkText, (Text.endsLine_flatMap _).length_lines, Text.count_unlines, hcounts]
  simp [SelectionList.size]

/-- Without line breaks the reports are the lines of a check. -/
theorem lines_checkText {list : SelectionList} (h : ∀ p ∈ list.patterns, p.breaks = 0) :
    Text.lines (checkText list).toList = list.patterns.map report ++ [summary list] := by
  rw [toList_checkText]
  apply Text.lines_unlines
  intro l hl
  rcases List.mem_append.mp hl with hm | hm
  · obtain ⟨p, hp, rfl⟩ := List.mem_map.mp hm
    exact oneLine_report (h p hp)
  · rw [List.mem_singleton.mp hm]
    exact oneLine_summary list

end

/-- The text has a line for each pattern of the list, which begins with the text of the pattern and
is all that a check prints of it, and then one line more, the last one of a check. -/
structure OneLineEach (list : SelectionList) (text : List Char) : Prop where
  length : (Text.lines text).length = list.size + 1
  pattern : ∀ (i : Nat) (p : Pattern), list.patterns[i]? = some p →
    ∃ line, (Text.lines text)[i]? = some line ∧ p.write.toList ++ ['\t'] <+: line ∧
      (checkLine p).toList = line ++ ['\n']
  last : ∃ line, (Text.lines text)[list.size]? = some line ∧
    (summaryLine list).toList = line ++ ['\n']

theorem oneLineEach_iff {list : SelectionList} :
    OneLineEach list (checkText list).toList ↔ ∀ p ∈ list.patterns, p.breaks = 0 := by
  constructor
  · intro h p hp
    have hsum : (list.patterns.map Pattern.breaks).sum = 0 := by
      have hlength := h.length
      rw [length_lines_checkText] at hlength
      omega
    exact List.sum_eq_zero_iff_forall_eq_nat.mp hsum _ (List.mem_map_of_mem hp)
  · intro h
    have hlines := lines_checkText h
    refine ⟨?_, ?_, ?_⟩
    · simp [hlines, SelectionList.size]
    · intro i p hp
      refine ⟨report p, ?_, ?_, toList_checkLine p⟩
      · rw [hlines, List.getElem?_append_left (by simpa using (List.getElem?_eq_some_iff.mp hp).1),
          List.getElem?_map, hp]
        rfl
      · simp [report]
    · refine ⟨summary list, ?_, toList_summaryLine list⟩
      simp [hlines, SelectionList.size]

section

variable {ε α β : Type} {f : α → Except ε β} {as : List α} {bs : List β}

theorem forall₂_of_mapM_eq_ok (h : as.mapM f = .ok bs) :
    List.Forall₂ (fun a b => f a = .ok b) as bs := by
  induction as generalizing bs with
  | nil =>
    cases h
    exact .nil
  | cons a as ih =>
    rw [List.mapM_cons] at h
    cases ha : f a with
    | error e =>
      rw [ha] at h
      cases h
    | ok b =>
      rw [ha] at h
      cases hm : as.mapM f with
      | error e =>
        rw [hm] at h
        cases h
      | ok cs =>
        rw [hm] at h
        cases h
        exact .cons ha (ih hm)

end

namespace PatternSource

/-- No line break is left in a given pattern when its comment and the blanks at its ends are gone.
The lines of a file have none at all. -/
def Unbroken : PatternSource → Prop
  | file _ => True
  | given patterns => ∀ line ∈ patterns, '\n' ∉ (Pattern.stripComment line).toList

instance : DecidablePred Unbroken
  | file _ => .isTrue trivial
  | given patterns => inferInstanceAs
      (Decidable (∀ line ∈ patterns, '\n' ∉ (Pattern.stripComment line).toList))

section

variable {d : Directory} {config : SelectionConfig} {list : SelectionList}

theorem exists_parse_of_build {path : String} (built : (file path).build d config = .ok list) :
    ∃ text, SelectionList.parse config text = .ok list := by
  rw [build, SelectionList.load] at built
  cases hread : d.readText path with
  | error e =>
    rw [hread] at built
    cases built
  | ok text =>
    refine ⟨text, ?_⟩
    rw [hread] at built
    cases hparse : SelectionList.parse config text with
    | error e => simp [hparse, Except.mapError] at built
    | ok l => simpa [hparse, Except.mapError] using built

theorem exists_compiled_of_build {patterns : List String}
    (built : (given patterns).build d config = .ok list) :
    ∃ ps, List.Forall₂ (fun line p => Pattern.compile config.matching line = .ok p) patterns ps ∧
      SelectionList.ofPatterns ps = list := by
  rw [build] at built
  cases hm : patterns.mapM (Pattern.compile config.matching) with
  | error e => simp [hm, Except.map, Except.mapError] at built
  | ok ps =>
    refine ⟨ps, forall₂_of_mapM_eq_ok hm, ?_⟩
    simpa [hm, Except.map, Except.mapError] using built

/-- What a check shows of the patterns of a list breaks into further lines exactly if they were
given with line breaks. -/
theorem forall_breaks_iff_unbroken {source : PatternSource}
    (built : source.build d config = .ok list) :
    (∀ p ∈ list.patterns, p.breaks = 0) ↔ source.Unbroken := by
  cases source with
  | file path =>
    obtain ⟨text, hparse⟩ := exists_parse_of_build built
    refine iff_of_true ?_ trivial
    intro p hp
    obtain ⟨line, hl, hc⟩ := SelectionList.exists_line_of_mem_parse hparse hp
    have hone := Pattern.oneLine_stripChars (Text.feed_notMem_of_mem_lines hl)
    rw [Pattern.breaks_eq_zero_iff hc, Pattern.write_of_compile hc, Pattern.stripComment,
      String.toList_ofList, String.toList_ofList]
    exact hone.noFeed
  | given patterns =>
    obtain ⟨ps, hps, rfl⟩ := exists_compiled_of_build built
    rw [Unbroken, ← Pattern.forall_breaks_eq_zero_iff hps]
    constructor
    · intro h p hp
      cases live : p.isDegenerate with
      | true => exact Pattern.breaks_of_isDegenerate live
      | false => exact h p (List.mem_filter.mpr ⟨hp, by simp [live]⟩)
    · exact fun h p hp => h p (List.mem_filter.mp hp).1

end

end PatternSource

/-- A check prints a line for each pattern and one line more, exactly if no line break is left in a
pattern that was given; patterns from a file never have one. Every line break that is left makes a
further line, and once more if it stands in the path expression. -/
theorem run_check_oneLineEach {d : Directory} {config : SelectionConfig} {source : PatternSource}
    {list : SelectionList} (built : source.build d config = .ok list) (w : World) :
    ∃ text, (Action.check list).run w = .ok () { w with stdout := w.stdout ++ text } ∧
      (OneLineEach list text.toList ↔ source.Unbroken) ∧
      (Text.lines text.toList).length =
        list.size + 1 + (list.patterns.map Pattern.breaks).sum := by
  refine ⟨checkText list, Action.run_check list w, ?_, length_lines_checkText list⟩
  rw [oneLineEach_iff]
  exact PatternSource.forall_breaks_iff_unbroken built

/-- Line breaks in a comment and at the end of a pattern, and a pattern that means nothing. -/
theorem run_check_oneLineEach_given :
    let source : PatternSource := .given ["/a#1 # one\n/b", "# none", "/c@2\n"]
    let text := "/a#1\tpath=/a\tselector=Index(Exact(1))\n" ++
      "/c@2\tpath=/c\tselector=Position(Exact(2.0))\n2 pattern(s) OK\n"
    ∃ list, source.build ⟨[], []⟩ {} = .ok list ∧
      (Action.check list).run ⟨⟨[], []⟩, ""⟩ = .ok () ⟨⟨[], []⟩, text⟩ ∧
      OneLineEach list text.toList := by
  intro source text
  have hshown : (source.build ⟨[], []⟩ {}).toOption.map checkText = some text := by decide +kernel
  cases built : source.build ⟨[], []⟩ {} with
  | error failure => simp [built, Except.toOption] at hshown
  | ok list =>
    have htext : checkText list = text := by simpa [built, Except.toOption] using hshown
    have hrun : (Action.check list).run ⟨⟨[], []⟩, ""⟩ = .ok () ⟨⟨[], []⟩, text⟩ := by
      rw [Action.run_check, htext, String.empty_append]
    obtain ⟨printed, hprinted, heach, -⟩ := run_check_oneLineEach built ⟨⟨[], []⟩, ""⟩
    have hsame : printed = text := by simpa using hprinted.symm.trans hrun
    refine ⟨list, rfl, hrun, ?_⟩
    rw [← hsame, heach]
    decide

/-- A line break in a pattern that is given breaks its report into three lines. -/
theorem not_oneLineEach_given :
    let source : PatternSource := .given ["/a\n/b"]
    let text := "/a\n/b\tpath=/a\n/b\tselector=None\n1 pattern(s) OK\n"
    ∃ list, source.build ⟨[], []⟩ {} = .ok list ∧
      (Action.check list).run ⟨⟨[], []⟩, ""⟩ = .ok () ⟨⟨[], []⟩, text⟩ ∧
      list.size = 1 ∧ (Text.lines text.toList).length = 4 ∧ ¬OneLineEach list text.toList := by
  intro source text
  have hshown : (source.build ⟨[], []⟩ {}).toOption.map (fun list => (checkText list, list.size)) =
      some (text, 1) := by decide +kernel
  have hlines : (Text.lines text.toList).length = 4 := by decide +kernel
  cases built : source.build ⟨[], []⟩ {} with
  | error failure => simp [built, Except.toOption] at hshown
  | ok list =>
    obtain ⟨htext, hsize⟩ : checkText list = text ∧ list.size = 1 := by
      simpa [built, Except.toOption] using hshown
    refine ⟨list, rfl, ?_, hsize, hlines, ?_⟩
    · rw [Action.run_check, htext, String.empty_append]
    · intro h
      have hlength := h.length
      rw [hlines, hsize] at hlength
      cases hlength

end Command

end PointSelect
