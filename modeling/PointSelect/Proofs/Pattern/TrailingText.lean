import PointSelect.Proofs.Pattern.Escape
import PointSelect.Proofs.Pattern.Reading

namespace PointSelect

namespace Text

/-- Of a text that starts with a blank, what is left without the blanks at its end does too, if it
is anything at all. -/
theorem isBlank_head_trimEnd {cs : List Char} (h : ∀ c ∈ cs.head?, isBlank c = true) :
    ∀ c ∈ (trimEnd cs).head?, isBlank c = true := by
  intro c hc
  obtain ⟨tail, ht⟩ := trimEnd_prefix cs
  cases hs : trimEnd cs with
  | nil =>
    rw [hs] at hc
    cases hc
  | cons d ds =>
    rw [hs] at hc ht
    rw [← ht] at h
    exact h c hc

end Text

namespace Pattern

open Text (isBlank trimEnd)

/-- Behind a blank every `#` opens a comment, as at the start of a text. -/
theorem beforeComment_blanks {w : List Char} (hw : ∀ c ∈ w, isBlank c = true) (hne : w ≠ [])
    (fresh : Bool) (cs : List Char) :
    beforeComment fresh (w ++ cs) = w ++ beforeComment true cs := by
  have hlast : (w.getLast?.map isBlank).getD fresh = true := by
    rw [List.getLast?_eq_some_getLast hne, Option.map_some, Option.getD_some]
    exact hw _ (List.getLast_mem hne)
  rw [beforeComment_append_of_eq (beforeComment_of_notMem (hash_notMem_of_isBlank hw)), hlast]

/-- A text without anything to strip keeps all of itself before more words, and of those something
that is set off by a blank, or nothing. -/
theorem exists_stripChars_append {cs : List Char} (hcs : stripChars cs = cs) (hne : cs ≠ [])
    {w : List Char} (hw : ∀ c ∈ w, isBlank c = true) (hwne : w ≠ []) (words : List Char) :
    ∃ tail, stripChars (cs ++ (w ++ words)) = cs ++ tail ∧
      ∀ c ∈ tail.head?, isBlank c = true := by
  obtain ⟨hcomment, htrimmed⟩ := stripChars_eq_self_iff.mp hcs
  have hkept := beforeComment_true_eq_self_iff.mpr hcomment
  refine ⟨trimEnd (w ++ beforeComment true words), ?_, ?_⟩
  · rw [stripChars, beforeComment_append_of_eq hkept, beforeComment_blanks hw hwne,
      Text.trim_append htrimmed hne]
  · apply Text.isBlank_head_trimEnd
    intro c hc
    rw [List.head?_append_of_ne_nil _ hwne] at hc
    exact hw c (List.mem_of_mem_head? hc)

/-- Two results that ask the same of a point, or that fail for the same reason. The texts they show
may differ. -/
inductive SameButText : Except PatternError Pattern → Except PatternError Pattern → Prop where
  | read {p q : Pattern} (path : q.pathText? = p.pathText?) (selector : q.selector = p.selector)
    (options : q.options = p.options) : SameButText (.ok p) (.ok q)
  | failed {e f : PatternError} (fault : f.fault = e.fault) : SameButText (.error e) (.error f)

theorem SameButText.of_rule (text text' : String) (path : PathExpr) (selector : Selector)
    (o : MatchOptions) :
    SameButText (.ok ⟨some ⟨text, path, selector⟩, o⟩) (.ok ⟨some ⟨text', path, selector⟩, o⟩) :=
  .read rfl rfl rfl

/-- What becomes of a text hangs on the parts it is split into. -/
theorem sameButText_of_split {o : MatchOptions} {line line' : String}
    (ht : stripComment line ≠ "") (ht' : stripComment line' ≠ "")
    (hpath : (split (stripComment line')).path = (split (stripComment line)).path)
    (hselector : (split (stripComment line')).selector = (split (stripComment line)).selector) :
    SameButText (compile o line) (compile o line') := by
  generalize hr : compile o line = r
  cases compile_eq_iff.mp hr with
  | nothing blank => exact absurd blank ht
  | malformedPath text bad =>
    rw [← hpath] at bad
    rw [(Reads.malformedPath ht' bad).compile_eq]
    exact .failed rfl
  | pathOnly text good bare =>
    rw [← hpath] at good
    rw [← hselector] at bare
    rw [(Reads.pathOnly ht' good bare).compile_eq]
    exact .of_rule _ _ _ _ o
  | malformedSelector text good marked bad =>
    rw [← hpath] at good
    rw [← hselector] at marked
    rw [(Reads.malformedSelector ht' good marked bad).compile_eq]
    exact .failed rfl
  | selected text good marked parsed =>
    rw [← hpath] at good
    rw [← hselector] at marked
    rw [(Reads.selected ht' good marked parsed).compile_eq]
    exact .of_rule _ _ _ _ o

/-- The selector of a text ends where a blank follows, so nothing that a blank sets off is a part of
it. -/
theorem split_append {text tail : String} (h : (split text).selector ≠ none)
    (htail : ∀ c ∈ tail.toList.head?, isBlank c = true) :
    (split (text ++ tail)).path = (split text).path ∧
      (split (text ++ tail)).selector = (split text).selector := by
  obtain ⟨⟨k, body⟩, hmarked⟩ := Option.ne_none_iff_exists'.mp h
  obtain ⟨r, htext, hbody, hr, -⟩ := exists_text_eq_of_marked hmarked
  have hrest : ∀ c ∈ (r ++ tail).toList.head?, isBlank c = true := by
    intro c hc
    rw [String.toList_append, List.head?_append] at hc
    cases hd : r.toList.head? with
    | none =>
      rw [hd] at hc
      exact htail c hc
    | some d =>
      rw [hd] at hc
      exact hr c (hd.trans hc)
  have hlonger : text ++ tail =
      escape (split text).path ++ k.marker.toString ++ body ++ (r ++ tail) := by
    rw [← String.append_assoc, ← htext]
  rw [hlonger, split_escape_append (aligned_split text) (endsEven_split hmarked) k hbody hrest,
    hmarked]
  exact ⟨rfl, rfl⟩

/-- Behind a pattern text with a selector anything may follow that a blank sets off, as a comment,
another selector or whatever it looks like: the line means the same, or is refused for the same
reason. -/
theorem compile_append_words (o : MatchOptions) {t w : String} (ht : stripComment t = t)
    (hmarked : (split t).selector ≠ none) (hne : w ≠ "") (hw : ∀ c ∈ w.toList, isBlank c = true)
    (words : String) : SameButText (compile o t) (compile o (t ++ w ++ words)) := by
  have htne : t ≠ "" := by
    rintro rfl
    exact hmarked rfl
  obtain ⟨tail, hstrip, htail⟩ := exists_stripChars_append (stripComment_eq_self_iff.mp ht)
    (by simpa using htne) hw (by simpa using hne) words.toList
  have hline : stripComment (t ++ w ++ words) = t ++ String.ofList tail := by
    rw [stripComment, String.toList_append, String.toList_append, List.append_assoc, hstrip,
      String.ofList_append, String.ofList_toList]
  rw [← String.toList_ofList (l := tail)] at htail
  obtain ⟨hpath, hselector⟩ := split_append hmarked htail
  apply sameButText_of_split
  · rwa [ht]
  · rw [hline]
    simp [htne]
  · rw [hline, ht, hpath]
  · rw [hline, ht, hselector]

/-- A text with an escape and ignored words of its own, before words that look like an escape, a
selector and a comment on a line of its own. -/
theorem compile_append_words_mixed :
    SameButText (compile {} "/a\\#b#2: x")
      (compile {} ("/a\\#b#2: x" ++ "\t" ++ "\\@ y@3\n#1")) := by
  apply compile_append_words
  · decide +kernel
  · decide +kernel
  · simp
  · simp [isBlank]

end Pattern

end PointSelect
