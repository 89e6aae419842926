import PointSelect.Proofs.Pattern.Escape
import PointSelect.Proofs.Pattern.Reading
import PointSelect.Proofs.Regex.Places

namespace PointSelect

namespace Regex

theorem compile_empty_text : compile "" = .ok .empty := rfl

/-- The empty expression has a match at the start of every text. -/
theorem Expr.matchesAtStart_empty (text : String) : Expr.empty.matchesAtStart text = true := by
  have hstart : Places.Has (1 &&& Places.all text.toList.length) 0 := by
    apply Places.has_and_iff.mpr
    exact ⟨Places.has_one_iff.mpr rfl, Places.has_all_iff.mpr (Nat.zero_le _)⟩
  exact bne_iff_ne.mpr (Places.ne_zero_iff.mpr ⟨0, hstart⟩)

end Regex

/-- Without a text a path expression accepts every path. -/
theorem PathExpr.matches_of_text_empty {e : PathExpr} (h : e.text = "") (path : String) :
    e.matchesAtStart path = true ∧ e.matchesAnywhere path = true := by
  have hcompiles := e.compiles
  rw [h, Regex.compile_empty_text] at hcompiles
  have hstart : e.matchesAtStart path = true := by
    rw [matchesAtStart, ← Except.ok.inj hcompiles]
    exact Regex.Expr.matchesAtStart_empty path
  exact ⟨hstart, Regex.Expr.matchesAnywhere_of_matchesAtStart hstart⟩

namespace Pattern

open Text (isBlank)

/-- No marker of a text stands behind an even number of backslashes, where it would open a
selector. -/
def Unmarked (cs : List Char) : Prop :=
  ∀ before k after, cs = before ++ Coordinate.marker k :: after → ¬EndsEven before

/-- A text that is not cut ends in as many backslashes as its path, or as even a number of them. -/
theorem Cut.endsEven_iff {cs path : List Char} (h : Cut cs path none) :
    EndsEven cs ↔ EndsEven path := by
  generalize hf : none = found at h
  induction h with
  | nothing => exact Iff.rfl
  | backslash => exact Iff.rfl
  | escaped k _ ih =>
    have hmarker := endsEven_append_iff (endsEven_singleton k.marker_ne_backslash)
    exact (endsEven_append_iff (endsEven_pair k.marker) _).trans ((ih hf).trans (hmarker _).symm)
  | @pair cs path found c _ _ ih =>
    have hpair := endsEven_append_iff (endsEven_pair c)
    exact (hpair cs).trans ((ih hf).trans (hpair path).symm)
  | marker _ _ => cases hf
  | @plain cs path found c hc _ _ ih =>
    have hsingle := endsEven_append_iff (endsEven_singleton hc)
    exact (hsingle cs).trans ((ih hf).trans (hsingle path).symm)

/-- Writing an aligned path with its backslashes does not change how it ends. -/
theorem endsEven_escapeMarkers_iff {path : List Char} (h : Aligned path) :
    EndsEven (escapeMarkers path) ↔ EndsEven path := by
  have hcut := cut_escapeMarkers h (.inl rfl)
  rw [afterPath, Option.elim_none, List.append_nil] at hcut
  exact hcut.endsEven_iff

section

variable {t b : String}

theorem selector_eq_none_of_unmarked (h : Unmarked t.toList) : (split t).selector = none := by
  by_contra hne
  obtain ⟨⟨k, body⟩, hmarked⟩ := Option.ne_none_iff_exists'.mp hne
  obtain ⟨r, htext, -⟩ := exists_text_eq_of_marked hmarked
  have heven := (endsEven_escapeMarkers_iff (aligned_split t)).mpr (endsEven_split hmarked)
  have hchars := congrArg String.toList htext
  refine h (escapeMarkers (split t).path.toList) k (body.toList ++ r.toList) ?_ heven
  simpa [toList_escape] using hchars

/-- What a text is cut at is an unescaped marker. -/
theorem unmarked_of_selector_eq_none (h : (split t).selector = none) : Unmarked t.toList := by
  intro before k after htext heven
  have hbare : ∀ path found, ¬Cut t.toList path (some found) := by
    intro path found hcut
    have hsplit := split_of_marked (k := found.1) hcut
    rw [String.ofList_toList] at hsplit
    rw [hsplit] at h
    cases h
  have hcut := cut_cutAtMarker before
  generalize (cutAtMarker before).1 = path at hcut
  generalize (cutAtMarker before).2 = found at hcut
  have hbefore := hcut.text_eq
  rw [htext] at hbare
  cases found with
  | some marked =>
    -- the text is cut before this marker already
    have hlonger := hcut.replace marked.1 (marked.2 ++ k.marker :: after)
    apply hbare path _
    rw [hbefore]
    simpa using hlonger
  | none =>
    have hpath := hcut.endsEven_iff.mp heven
    have hlonger : Cut _ path (some (k, after)) := cut_escapeMarkers hcut.aligned (.inr hpath)
    apply hbare path _
    rw [hbefore]
    simpa [afterPath] using hlonger

theorem selector_eq_none_iff : (split t).selector = none ↔ Unmarked t.toList :=
  ⟨unmarked_of_selector_eq_none, selector_eq_none_of_unmarked⟩

/-- A marker behind a text without one is the first, unless half a pair of backslashes takes it. -/
theorem split_append_marker (hunmarked : Unmarked t.toList) (heven : EndsEven t.toList)
    (k : Coordinate) (hb : ∀ c ∈ b.toList, isBlank c = false) :
    split (t ++ k.marker.toString ++ b) = ⟨(split t).path, some (k, b), ""⟩ := by
  obtain ⟨htext, -⟩ := text_eq_of_unmarked (selector_eq_none_of_unmarked hunmarked)
  have haligned := aligned_split t
  have hpath : EndsEven (split t).path.toList := by
    rw [htext, toList_escape] at heven
    exact (endsEven_escapeMarkers_iff haligned).mp heven
  have hnothing : ∀ c ∈ "".toList.head?, isBlank c = true := by simp
  have hsplit := split_escape_append haligned hpath k hb hnothing
  rwa [String.append_empty, ← htext] at hsplit

end

/-- Characters that are no blanks open no comment, apart from a `#` at the start. -/
theorem beforeComment_of_no_blanks {fresh : Bool} {w : List Char}
    (hw : ∀ c ∈ w, isBlank c = false) (hfirst : fresh = true → w.head? ≠ some '#') :
    beforeComment fresh w = w := by
  induction w generalizing fresh with
  | nil => rfl
  | cons c w ih =>
    obtain ⟨hc, htail⟩ := List.forall_mem_cons.mp hw
    refine beforeComment_cons_eq_self.mpr ⟨?_, ih htail ?_⟩
    · rintro ⟨hfresh, rfl⟩
      exact hfirst hfresh rfl
    · intro hblank
      rw [hc] at hblank
      cases hblank

/-- What abuts a text with nothing to strip leaves nothing to strip either, but for a `#` with no
text before it. -/
theorem stripChars_append_no_blanks {cs w : List Char} (hcs : stripChars cs = cs)
    (hw : ∀ c ∈ w, isBlank c = false) (hfirst : cs = [] → w.head? ≠ some '#') :
    stripChars (cs ++ w) = cs ++ w := by
  obtain ⟨hcomment, htrimmed⟩ := stripChars_eq_self_iff.mp hcs
  have hkept := beforeComment_true_eq_self_iff.mpr hcomment
  have hrest : beforeComment ((cs.getLast?.map isBlank).getD true) w = w := by
    apply beforeComment_of_no_blanks hw
    intro hfresh
    apply hfirst
    cases hl : cs.getLast? with
    | none => exact List.getLast?_eq_none_iff.mp hl
    | some c =>
      rw [hl, Option.map_some, Option.getD_some, htrimmed.last c hl] at hfresh
      cases hfresh
  rw [stripChars, beforeComment_append_of_eq hkept, hrest]
  exact Text.trim_of_trimmed (htrimmed.append hw)

section

variable (o : MatchOptions) {t b : String} (k : Coordinate) (ht : stripComment t = t)
  (hunmarked : Unmarked t.toList) (heven : EndsEven t.toList)
  (hb : ∀ c ∈ b.toList, isBlank c = false) (hfirst : t = "" → k = .position)

include ht hb hfirst in
theorem stripComment_append_marker :
    stripComment (t ++ k.marker.toString ++ b) = t ++ k.marker.toString ++ b := by
  have hchars : (t ++ k.marker.toString ++ b).toList = t.toList ++ k.marker :: b.toList := by simp
  apply stripComment_eq_self_iff.mpr
  rw [hchars]
  apply stripChars_append_no_blanks (stripComment_eq_self_iff.mp ht)
  · intro c hc
    rcases List.mem_cons.mp hc with rfl | hc
    · cases k <;> decide
    · exact hb c hc
  · intro hnil hhash
    rw [hfirst (by simpa using hnil)] at hhash
    cases hhash

include ht hunmarked heven hb hfirst

/-- Behind a good path expression the selector is all that is left to judge. -/
theorem compile_append_good {e : PathExpr} (he : e.text = (split t).path) :
    compile o (t ++ k.marker.toString ++ b) = match Selector.parse k o.indexPolicy b with
      | .ok s => .ok ⟨some ⟨t ++ k.marker.toString ++ b, e, s⟩, o⟩
      | .error fault => .error ⟨t ++ k.marker.toString ++ b, .selector fault⟩ := by
  have hsplit := split_append_marker hunmarked heven k hb
  rw [← he] at hsplit
  exact compile_of_split o (stripComment_append_marker k ht hb hfirst) hsplit

theorem compile_append_bad {fault : Regex.Fault}
    (hbad : Regex.compile (split t).path = .error fault) :
    compile o (t ++ k.marker.toString ++ b) =
      .error ⟨t ++ k.marker.toString ++ b, .path fault⟩ := by
  apply compile_of_malformedPath o (stripComment_append_marker k ht hb hfirst)
  · simp
  · rwa [split_append_marker hunmarked heven k hb]

end

/-- Patterns with one path expression accept the same paths. -/
theorem matches_eq_of_path (text text' : String) (e : PathExpr) (s s' : Selector)
    (o : MatchOptions) (path : String) :
    matchesAtStart ⟨some ⟨text, e, s⟩, o⟩ path = matchesAtStart ⟨some ⟨text', e, s'⟩, o⟩ path ∧
      matchesAnywhere ⟨some ⟨text, e, s⟩, o⟩ path =
        matchesAnywhere ⟨some ⟨text', e, s'⟩, o⟩ path :=
  ⟨rfl, rfl⟩

/-- In front of nothing `#` begins a comment. -/
theorem compile_index_marker (o : MatchOptions) (b : String) :
    compile o ("" ++ Coordinate.index.marker.toString ++ b) = .ok ⟨none, o⟩ := by
  have hchars : ("" ++ Coordinate.index.marker.toString ++ b).toList = '#' :: b.toList := by
    simp [Coordinate.marker]
  apply Reads.compile_eq
  apply Reads.nothing
  rw [stripComment, hchars]
  rfl

/-- Behind no path text at all `@` opens a selector. -/
theorem exists_compile_position_marker (o : MatchOptions) {b : String}
    (hb : ∀ c ∈ b.toList, isBlank c = false) :
    let line := "" ++ Coordinate.position.marker.toString ++ b
    ∃ e : PathExpr, e.text = "" ∧
      compile o line = match Selector.parse .position o.indexPolicy b with
        | .ok s => .ok ⟨some ⟨line, e, s⟩, o⟩
        | .error fault => .error ⟨line, .selector fault⟩ := by
  intro line
  obtain ⟨e, he⟩ := PathExpr.exists_text_eq_iff.mpr ⟨_, Regex.compile_empty_text⟩
  refine ⟨e, he, ?_⟩
  have hunmarked : Unmarked "".toList := by
    intro before k after h
    simp at h
  exact compile_append_good o .position rfl hunmarked endsEven_nil hb (fun _ => rfl) he

/-- A marker with no text before it leaves no path out. -/
theorem matches_of_compile_marker {o : MatchOptions} {k : Coordinate} {b : String}
    (hb : ∀ c ∈ b.toList, isBlank c = false) {q : Pattern}
    (h : compile o ("" ++ k.marker.toString ++ b) = .ok q) :
    (k = .position → q.pathText? = some "") ∧
      ∀ path, q.matchesAtStart path = true ∧ q.matchesAnywhere path = true := by
  cases k with
  | index =>
    rw [compile_index_marker] at h
    obtain rfl := Except.ok.inj h
    exact ⟨nofun, fun _ => ⟨rfl, rfl⟩⟩
  | position =>
    obtain ⟨e, he, hline⟩ := exists_compile_position_marker o hb
    rw [hline] at h
    cases hparse : Selector.parse .position o.indexPolicy b with
    | error fault =>
      rw [hparse] at h
      cases h
    | ok s =>
      rw [hparse] at h
      obtain rfl := Except.ok.inj h
      exact ⟨fun _ => congrArg some he, PathExpr.matches_of_text_empty he⟩

/-- A text in front of a selector is judged as if it stood alone. A bad path expression is refused
for the same reason whatever the selector is. A good one accepts the same paths, unless the selector
is none and the line is refused for that. With nothing in front `#` begins a comment and `@` opens a
selector on all paths. -/
theorem compile_append_selector (o : MatchOptions) {t b : String} (k : Coordinate)
    (ht : stripComment t = t) (hunmarked : Unmarked t.toList) (heven : EndsEven t.toList)
    (hb : ∀ c ∈ b.toList, isBlank c = false) :
    let line := t ++ k.marker.toString ++ b
    (∀ p, compile o t = .ok p →
      (∃ q, compile o line = .ok q ∧ ∀ path, q.matchesAtStart path = p.matchesAtStart path ∧
        q.matchesAnywhere path = p.matchesAnywhere path) ∨
      ∃ fault, Selector.parse k o.indexPolicy b = .error fault ∧
        compile o line = .error ⟨line, .selector fault⟩) ∧
    (∀ e, compile o t = .error e → ∃ fault, e = ⟨t, .path fault⟩ ∧
      compile o line = .error ⟨line, .path fault⟩) ∧
    (t = "" → (k = .index → compile o line = .ok ⟨none, o⟩) ∧
      ∀ q, compile o line = .ok q → (k = .position → q.pathText? = some "") ∧
        ∀ path, q.matchesAtStart path = true ∧ q.matchesAnywhere path = true) := by
  intro line
  have hreads := reads_compile o t
  generalize compile o t = r at hreads ⊢
  cases hreads with
  | nothing blank =>
    obtain rfl : t = "" := ht.symm.trans blank
    refine ⟨?_, ?_, ?_⟩
    · rintro p ⟨⟩
      cases k with
      | index => exact .inl ⟨_, compile_index_marker o b, fun _ => ⟨rfl, rfl⟩⟩
      | position =>
        obtain ⟨e, he, hline⟩ := exists_compile_position_marker o hb
        cases hparse : Selector.parse .position o.indexPolicy b with
        | ok s =>
          rw [hparse] at hline
          exact .inl ⟨_, hline, PathExpr.matches_of_text_empty he⟩
        | error fault =>
          rw [hparse] at hline
          exact .inr ⟨fault, rfl, hline⟩
    · rintro e ⟨⟩
    · rintro -
      refine ⟨?_, fun q hq => matches_of_compile_marker hb hq⟩
      rintro rfl
      exact compile_index_marker o b
  | @malformedPath fault text bad =>
    rw [ht] at text bad
    have hline := compile_append_bad o k ht hunmarked heven hb (fun h => absurd h text) bad
    refine ⟨?_, ?_, fun h => absurd h text⟩
    · rintro p ⟨⟩
    · rintro e ⟨⟩
      exact ⟨fault, by rw [ht], hline⟩
  | @pathOnly path text good bare =>
    rw [ht] at text good
    have hline := compile_append_good o k ht hunmarked heven hb (fun h => absurd h text) good
    refine ⟨?_, ?_, fun h => absurd h text⟩
    · rintro p ⟨⟩
      cases hparse : Selector.parse k o.indexPolicy b with
      | ok s =>
        rw [hparse] at hline
        exact .inl ⟨_, hline, matches_eq_of_path _ _ path s _ o⟩
      | error fault =>
        rw [hparse] at hline
        exact .inr ⟨fault, rfl, hline⟩
    · rintro e ⟨⟩
  | malformedSelector text good marked bad =>
    rw [ht, selector_eq_none_of_unmarked hunmarked] at marked
    cases marked
  | selected text good marked parsed =>
    rw [ht, selector_eq_none_of_unmarked hunmarked] at marked
    cases marked

/-- An expression with an escaped marker in it and a pair of backslashes at its end, before a range,
and one with an open parenthesis, before a body that would be a comment elsewhere. -/
theorem compile_append_selector_escaped :
    let good := "/a\\@.*\\\\"
    let bad := "/(b"
    (∃ p q, compile {} good = .ok p ∧ compile {} (good ++ "#" ++ "1:3") = .ok q ∧
      ∀ path, q.matchesAtStart path = p.matchesAtStart path ∧
        q.matchesAnywhere path = p.matchesAnywhere path) ∧
    ∃ fault, compile {} bad = .error ⟨bad, .path fault⟩ ∧
      compile {} (bad ++ "@" ++ "#\\") = .error ⟨bad ++ "@" ++ "#\\", .path fault⟩ := by
  intro good bad
  refine ⟨?_, ?_⟩
  · have hself : stripComment good = good := by decide +kernel
    have hsplit : split good = ⟨"/a@.*\\\\", none, ""⟩ := by decide +kernel
    have hbare : (split good).selector = none := by rw [hsplit]
    obtain ⟨path, hpath⟩ : ∃ e : PathExpr, e.text = "/a@.*\\\\" :=
      PathExpr.exists_text_eq_iff.mpr ⟨_, rfl⟩
    have hread : Reads {} good (.ok ⟨some ⟨stripComment good, path, .unrestricted⟩, {}⟩) := by
      apply Reads.pathOnly
      · rw [hself]
        decide
      · rw [hself, hsplit, hpath]
      · rwa [hself]
    have hparse : Selector.parse .index .truncate "1:3" =
        .ok (.index (.range ⟨.ofInt 1, .ofInt 3⟩)) := by decide +kernel
    obtain ⟨halike, -⟩ := compile_append_selector {} (b := "1:3") .index hself
      (selector_eq_none_iff.mp hbare) (by decide +kernel) (by simp [isBlank])
    rcases halike _ hread.compile_eq with ⟨q, hq, hpaths⟩ | ⟨fault, hfault, -⟩
    · exact ⟨_, q, hread.compile_eq, hq, hpaths⟩
    · cases hparse.symm.trans hfault
  · have hself : stripComment bad = bad := by decide +kernel
    have hsplit : split bad = ⟨"/(b", none, ""⟩ := by decide +kernel
    have hbare : (split bad).selector = none := by rw [hsplit]
    have hread : Reads {} bad (.error ⟨stripComment bad, .path .groupUnclosed⟩) := by
      apply Reads.malformedPath
      · rw [hself]
        decide
      · rw [hself, hsplit]
        rfl
    obtain ⟨-, hrefused, -⟩ := compile_append_selector {} (b := "#\\") .position hself
      (selector_eq_none_iff.mp hbare) (by decide +kernel) (by simp [isBlank])
    obtain ⟨fault, hfault, hline⟩ := hrefused _ hread.compile_eq
    exact ⟨fault, hread.compile_eq.trans (congrArg _ hfault), hline⟩

end Pattern

end PointSelect
