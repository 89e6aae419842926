import PointSelect.Proofs.Pattern.Marker
import PointSelect.Proofs.Pattern.Reading
import PointSelect.Proofs.Selector.Rendering

namespace PointSelect

section

variable {c : Char} (h : isNumeral c = true ∨ c = ':')
include h

theorem isBlank_of_selectorChar : Text.isBlank c = false := by
  rcases h with hn | rfl
  · exact isBlank_of_isNumeral hn
  · decide

theorem ne_hash_of_selectorChar : c ≠ '#' := by
  rcases h with hn | rfl
  · exact ne_hash_of_isNumeral hn
  · decide

end

namespace Pattern

open Selector (Renders)

/-- A text without a comment stays one when its selector is written another way. -/
theorem stripChars_replace {a rest w : List Char} {k : Coordinate}
    (h : stripChars (a ++ k.marker :: rest) = a ++ k.marker :: rest)
    (hw : ∀ c ∈ w, isNumeral c = true ∨ c = ':') :
    stripChars (a ++ k.marker :: w) = a ++ k.marker :: w := by
  obtain ⟨hc, ht⟩ := stripChars_eq_self_iff.mp h
  apply stripChars_eq_self_iff.mpr
  constructor
  · -- up to the marker nothing has changed, and no `#` comes after it
    have hk := beforeComment_true_eq_self_iff.mpr hc
    rw [List.append_cons] at hk
    have hnew := beforeComment_append (beforeComment_left hk)
      fun hm => ne_hash_of_selectorChar (hw _ hm) rfl
    rw [← List.append_cons] at hnew
    exact beforeComment_true_eq_self_iff.mp hnew
  · apply ht.replace
    intro c hm
    rcases List.mem_cons.mp hm with rfl | hm
    · cases k <;> decide
    · exact isBlank_of_selectorChar (hw c hm)

/-- What is asked by a pattern whose text has a selector. -/
theorem selected_of_compile {o : MatchOptions} {line : String} {p : Pattern}
    (h : compile o line = .ok p) {k : Coordinate} {body : String}
    (marked : (split (stripComment line)).selector = some (k, body)) :
    ∃ path s, p = ⟨some ⟨stripComment line, path, s⟩, o⟩ ∧
      path.text = (split (stripComment line)).path ∧
      Selector.parse k o.indexPolicy body = .ok s := by
  cases compile_eq_iff.mp h with
  | nothing blank =>
    rw [blank] at marked
    cases marked
  | pathOnly text good bare =>
    rw [bare] at marked
    cases marked
  | @selected path k' body' s text good marked' parsed =>
    rw [marked'] at marked
    cases marked
    exact ⟨path, s, rfl, good, parsed⟩

section

variable {path rest w : List Char} {k : Coordinate}
  (hcut : Cut (escapeMarkers path ++ k.marker :: rest) path (some (k, rest)))
  (hstrip : stripChars (escapeMarkers path ++ k.marker :: rest) =
    escapeMarkers path ++ k.marker :: rest)
include hcut hstrip

/-- A pattern text with another selector in place of its own is read as the same path and what that
selector is. -/
theorem compile_replace (hw : ∀ c ∈ w, isNumeral c = true ∨ c = ':') (e : PathExpr)
    (he : e.text = String.ofList path) (o : MatchOptions) :
    let text := String.ofList (escapeMarkers path ++ k.marker :: w)
    compile o text = match Selector.parse k o.indexPolicy (String.ofList w) with
      | .ok s => .ok ⟨some ⟨text, e, s⟩, o⟩
      | .error fault => .error ⟨text, .selector fault⟩ := by
  intro text
  have hall : ∀ c ∈ w, (!Text.isBlank c) = true := by
    intro c hc
    rw [isBlank_of_selectorChar (hw c hc)]
    rfl
  have hsplit := split_of_marked (hcut.replace k w)
  rw [List.takeWhile_eq_self_iff.mpr hall, List.dropWhile_eq_nil_iff.mpr hall] at hsplit
  have hself : stripComment text = text := by
    rw [stripComment, String.toList_ofList, stripChars_replace hstrip hw]
  rw [← he] at hsplit
  exact compile_of_split o hself hsplit

/-- A pattern text with its selector written anew is read as the same path and that selector. -/
theorem compile_of_renders {s : Selector} (hw : Renders k w s) (e : PathExpr)
    (he : e.text = String.ofList path) (o : MatchOptions) :
    compile o (String.ofList (escapeMarkers path ++ k.marker :: w)) =
      .ok ⟨some ⟨String.ofList (escapeMarkers path ++ k.marker :: w), e, s⟩, o⟩ := by
  have hparse : Selector.parse k o.indexPolicy (String.ofList w) = .ok s := by
    rw [Selector.parse, String.toList_ofList]
    exact (hw.denotes o.indexPolicy).parseChars_eq
  have hcompile := compile_replace hcut hstrip hw.chars e he o
  rwa [hparse] at hcompile

end

/-- The text `q` before the marker of a pattern, followed by the selector as it is written, is a
pattern with the same path expression and the very same selector. That holds under all options: an
integer that was kept from a fraction has none any more. -/
theorem compile_rendered {o : MatchOptions} {line : String} {p : Pattern}
    (h : compile o line = .ok p) {k : Coordinate} {body : String}
    (marked : (split p.write).selector = some (k, body)) :
    ∃ q r, p.write = q ++ k.marker.toString ++ body ++ r ∧
      split q = ⟨(split p.write).path, none, ""⟩ ∧
      ∀ o', ∃ p', compile o' (q ++ p.selector.write) = .ok p' ∧
        p'.text? = some (q ++ p.selector.write) ∧ p'.pathText? = p.pathText? ∧
        p'.selector = p.selector ∧ p'.options = o' := by
  rw [write_of_compile h] at marked ⊢
  obtain ⟨e, s, hp, he, parsed⟩ := selected_of_compile h marked
  obtain ⟨rest, hcut, hbody⟩ := exists_cut_of_split marked
  have hstrip := stripComment_eq_self_iff.mp (stripComment_stripComment line)
  obtain ⟨w, hwrite, hw⟩ := Selector.exists_renders (Selector.parseChars_eq_ok_iff.mp parsed)
  have htext : (stripComment line).toList =
      escapeMarkers (split (stripComment line)).path.toList ++ k.marker :: rest := hcut.text_eq
  have hpath : e.text = String.ofList (split (stripComment line)).path.toList := by
    rw [String.ofList_toList, he]
  rw [htext] at hcut hstrip
  have hq := split_of_unmarked hcut.unmarked
  rw [String.ofList_toList] at hq
  generalize (split (stripComment line)).path.toList = path at *
  have hrest : body ++ String.ofList (rest.dropWhile fun c => !Text.isBlank c) =
      String.ofList rest := by
    rw [hbody, ← String.ofList_append, List.takeWhile_append_dropWhile]
  have hwhole : String.ofList (escapeMarkers path) ++ p.selector.write =
      String.ofList (escapeMarkers path ++ k.marker :: w) := by
    rw [hp, selector, Option.elim_some, Selector.write, hwrite, String.ofList_append]
  refine ⟨String.ofList (escapeMarkers path),
    String.ofList (rest.dropWhile fun c => !Text.isBlank c), ?_, hq, ?_⟩
  · apply String.toList_inj.mp
    rw [String.append_assoc, hrest, htext]
    simp
  · intro o'
    rw [hwhole]
    have hc := compile_of_renders hcut hstrip hw e hpath o'
    exact ⟨_, hc, rfl, by rw [hp]; rfl, by rw [hp]; rfl, rfl⟩

/-- An escaped marker, a fraction to cut off and a comment: the selector is written anew as `#2` and
stands after the same path. -/
theorem compile_rendered_fraction : ∃ p q, compile {} "/a\\#b#2.9 x # note" = .ok p ∧
    p.write = "/a\\#b#2.9 x" ∧ p.selector.write = "#2" ∧ split q = ⟨"/a#b", none, ""⟩ ∧
    ∀ o, ∃ p', compile o (q ++ "#2") = .ok p' ∧ p'.pathText? = some "/a#b" ∧
      p'.selector = .index (.exact 2) := by
  have htext : stripComment "/a\\#b#2.9 x # note" = "/a\\#b#2.9 x" := by decide +kernel
  have hsplit : split "/a\\#b#2.9 x" = ⟨"/a#b", some (.index, "2.9"), "x"⟩ := by decide +kernel
  have hparse : Selector.parse .index .truncate "2.9" = .ok (.index (.exact 2)) := by
    decide +kernel
  obtain ⟨path, hpath⟩ : ∃ e : PathExpr, e.text = "/a#b" :=
    PathExpr.exists_text_eq_iff.mpr ⟨_, rfl⟩
  have hread : Reads {} "/a\\#b#2.9 x # note"
      (.ok ⟨some ⟨stripComment "/a\\#b#2.9 x # note", path, .index (.exact 2)⟩, {}⟩) := by
    apply Reads.selected
    · rw [htext]
      decide
    · rw [htext, hsplit, hpath]
    · rw [htext, hsplit]
    · exact hparse
  rw [htext] at hread
  have hwrite : (Selector.index (.exact 2)).write = "#2" := by decide +kernel
  have hmarked := congrArg PatternParts.selector hsplit
  obtain ⟨q, r, -, hq, hall⟩ := compile_rendered hread.compile_eq hmarked
  refine ⟨_, q, hread.compile_eq, rfl, hwrite, ?_, ?_⟩
  · exact hq.trans (by rw [write, text?, Option.map_some, Option.getD_some, hsplit])
  · intro o
    obtain ⟨p', hc, -, hp, hs, -⟩ := hall o
    rw [selector, Option.elim_some, hwrite] at hc
    exact ⟨p', hc, hp.trans (congrArg some hpath), hs⟩

end Pattern

end PointSelect
