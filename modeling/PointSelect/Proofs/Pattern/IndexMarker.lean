import PointSelect.Proofs.Pattern.CommentExpr
import PointSelect.Proofs.Pattern.Escape
import PointSelect.Proofs.Pattern.Reading
import PointSelect.Proofs.Selector.Reading

namespace PointSelect

/-- A selector asks for the coordinate whose marker it stands behind. -/
theorem Selector.coordinate?_of_parse {k : Coordinate} {policy : IndexPolicy} {body : String}
    {s : Selector} (h : parse k policy body = .ok s) : s.coordinate? = some k := by
  cases parseChars_eq_ok_iff.mp h <;> rfl

namespace Pattern

open Text (isBlank)

/-- In a text without a comment every `#` abuts a character that is no blank. -/
theorem exists_abuts_of_not_hasComment {before after : List Char}
    (h : ¬HasComment (before ++ '#' :: after)) :
    ∃ c, before.getLast? = some c ∧ isBlank c = false := by
  by_contra hnone
  refine h ⟨before, after, rfl, ?_⟩
  intro c hc
  by_contra hblank
  exact hnone ⟨c, hc, Bool.eq_false_iff.mpr hblank⟩

/-- The marker of an index selector stands right behind the last character of the path. -/
theorem Cut.exists_abuts {cs path after : List Char} (h : Cut cs path (some (.index, after)))
    (hcomment : ¬HasComment cs) : ∃ start c, cs = start ++ c :: '#' :: after ∧
      path.getLast? = some c ∧ isBlank c = false := by
  have htext : cs = escapeMarkers path ++ '#' :: after := h.text_eq
  rw [htext] at hcomment
  obtain ⟨c, hlast, hblank⟩ := exists_abuts_of_not_hasComment hcomment
  obtain ⟨start, hstart⟩ := List.getLast?_eq_some_iff.mp hlast
  rw [getLast?_escapeMarkers] at hlast
  refine ⟨start, c, ?_, hlast, hblank⟩
  rw [htext, hstart, List.append_assoc]
  rfl

theorem exists_cut_of_index {o : MatchOptions} {line : String} {p : Pattern} {target : Target Int64}
    (h : compile o line = .ok p) (hs : p.selector = .index target) :
    ∃ path after, p.text? = some (stripComment line) ∧ p.pathText? = some (.ofList path) ∧
      Cut (stripComment line).toList path (some (.index, after)) ∧
      Selector.parse .index o.indexPolicy (.ofList (after.takeWhile fun c => !isBlank c)) =
        .ok p.selector := by
  cases compile_eq_iff.mp h with
  | nothing blank => cases hs
  | pathOnly text good bare => cases hs
  | @selected path k body s text good marked parsed =>
    obtain rfl : s = .index target := hs
    obtain rfl : k = .index := Option.some.inj (Selector.coordinate?_of_parse parsed).symm
    obtain ⟨after, hcut, rfl⟩ := exists_cut_of_split marked
    refine ⟨_, after, rfl, ?_, hcut, parsed⟩
    rw [String.ofList_toList, ← good]
    rfl

/-- Behind an index marker stands its selector, and before it the path: the character there is the
last one of the path expression and no blank. A `#` at the start of a line or behind a blank opens
no selector, whatever stands around it: the line is read as if it ended there. -/
theorem index_marker_abuts (o : MatchOptions) (line : String) :
    (∀ p target, compile o line = .ok p → p.selector = .index target →
      ∃ text path : String, p.text? = some text ∧ p.pathText? = some path ∧
        ∃ start c after, text.toList = start ++ c :: '#' :: after ∧
          cutAtMarker text.toList = (path.toList, some (.index, after)) ∧
          Selector.parse .index o.indexPolicy (.ofList (after.takeWhile fun c => !isBlank c)) =
            .ok p.selector ∧
          path.toList.getLast? = some c ∧ isBlank c = false) ∧
    ∀ before after, line.toList = before ++ '#' :: after →
      (∀ c ∈ before.getLast?, isBlank c = true) → compile o line = compile o (.ofList before) := by
  constructor
  · intro p target h hs
    obtain ⟨path, after, htext, hpath, hcut, hparse⟩ := exists_cut_of_index h hs
    obtain ⟨start, c, hmarker, hlast, hblank⟩ := hcut.exists_abuts (stripComment_hasNoComment line)
    refine ⟨_, _, htext, hpath, start, c, after, hmarker, ?_, hparse, ?_, hblank⟩
    · rw [hcut.cutAtMarker_eq, String.toList_ofList]
    · rwa [String.toList_ofList]
  · intro before after hline hmark
    rw [← compile_stripComment, ← compile_stripComment o (.ofList before), stripComment,
      stripComment, hline, String.toList_ofList, stripChars_append_hash hmark]

/-- Behind a blank an escaped `#` is a part of the path, behind a pair of backslashes a `#` is the
marker, and behind a blank again one opens a comment. -/
theorem index_marker_abuts_pair :
    ∃ p, compile {} "/a \\#b\\\\#3 #4" = .ok p ∧ p.selector = .index (.exact 3) ∧
      ∃ start c after, (p.text?.getD "").toList = start ++ c :: '#' :: after ∧
        p.pathText?.bind (·.toList.getLast?) = some c ∧ isBlank c = false := by
  obtain ⟨path, hpath⟩ : ∃ e : PathExpr, e.text = "/a #b\\\\" :=
    PathExpr.exists_text_eq_iff.mpr ⟨_, rfl⟩
  have hself : stripComment "/a \\#b\\\\#3" = "/a \\#b\\\\#3" := by decide +kernel
  have hsplit : split "/a \\#b\\\\#3" = ⟨path.text, some (.index, "3"), ""⟩ := by
    rw [hpath]
    decide +kernel
  have hparse : Selector.parse .index .truncate "3" = .ok (.index (.exact 3)) := by decide +kernel
  have hstrip : stripComment "/a \\#b\\\\#3 #4" = "/a \\#b\\\\#3" := by decide +kernel
  have hline : compile {} "/a \\#b\\\\#3 #4" =
      .ok ⟨some ⟨"/a \\#b\\\\#3", path, .index (.exact 3)⟩, {}⟩ := by
    rw [← compile_stripComment, hstrip, compile_of_split {} hself hsplit, hparse]
  obtain ⟨habuts, -⟩ := index_marker_abuts {} "/a \\#b\\\\#3 #4"
  obtain ⟨text, shown, htext, hshown, start, c, after, hmarker, -, -, hlast, hblank⟩ :=
    habuts _ _ hline rfl
  refine ⟨_, hline, rfl, start, c, after, ?_, ?_, hblank⟩
  · rw [htext, Option.getD_some, hmarker]
  · rw [hshown, Option.bind_some, hlast]

end Pattern

end PointSelect
