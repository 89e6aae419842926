import PointSelect.Proofs.Pattern.IndexPolicy
import PointSelect.Proofs.SelectionList.Reading

namespace PointSelect.SelectionList

section

variable (mode : PathMode)

/-- Line by line a pattern stays or goes, and none is another one. -/
theorem readable_reject_sublist (lines : List (List Char)) :
    ((readable ⟨.reject, mode⟩ lines).map (·.withPolicy .truncate)).Sublist
      (readable ⟨.truncate, mode⟩ lines) := by
  induction lines with
  | nil => exact List.Sublist.refl _
  | cons line rest ih =>
    rw [readable_cons, readable_cons]
    cases hstrict : Pattern.compile ⟨.reject, mode⟩ (.ofList line) with
    | ok p =>
      rw [Pattern.compile_truncate_of_reject mode hstrict]
      exact ih.cons_cons _
    | error e =>
      cases Pattern.compile ⟨.truncate, mode⟩ (.ofList line) with
      | ok q => exact ih.cons q
      | error e' => exact ih

theorem ofPatterns_sublist {ps qs : List Pattern} {policy : IndexPolicy}
    (h : (ps.map (·.withPolicy policy)).Sublist qs) :
    ((ofPatterns ps).patterns.map (·.withPolicy policy)).Sublist (ofPatterns qs).patterns := by
  have hlive : (ps.map (·.withPolicy policy)).filter (fun p => !p.isDegenerate) =
      (ps.filter fun p => !p.isDegenerate).map (·.withPolicy policy) := List.filter_map
  rw [ofPatterns, ← hlive]
  exact h.filter _

end

/-- A list with the same patterns and more accepts all points that the other one accepts. -/
theorem accepts_of_sublist {a b : SelectionList} {policy : IndexPolicy}
    (h : (a.patterns.map (·.withPolicy policy)).Sublist b.patterns) {x : Point}
    (hx : a.accepts x = true) : b.accepts x = true := by
  obtain ⟨p, hp, haccepts⟩ := List.any_eq_true.mp hx
  refine List.any_eq_true.mpr ⟨_, h.subset (List.mem_map_of_mem hp), ?_⟩
  rwa [Pattern.accepts_withPolicy]

/-- To refuse fractions only takes patterns away. What is read then is read as well where fractions
are cut off, and alike; of the lines that are refused, those are read there that have one number
with a fraction behind `#`, and their error says so. Of a list whose errors are skipped there is so
a part left, which selects none but points that the whole list selects. -/
theorem reject_only_removes (mode : PathMode) :
    let strict : MatchOptions := ⟨.reject, mode⟩
    let lax : MatchOptions := ⟨.truncate, mode⟩
    (∀ line p, Pattern.compile strict line = .ok p →
      Pattern.compile lax line = .ok (p.withPolicy .truncate)) ∧
    (∀ line e, Pattern.compile strict line = .error e →
      ((∃ q, Pattern.compile lax line = .ok q) ↔ ∃ x, Pattern.HasFractionalIndex line e x)) ∧
    ∀ text, ∃ a b, parse ⟨strict, true⟩ text = .ok a ∧ parse ⟨lax, true⟩ text = .ok b ∧
      (a.patterns.map (·.withPolicy .truncate)).Sublist b.patterns ∧
      (∀ x, a.accepts x = true → b.accepts x = true) ∧
      ∀ {α : Type} (toPoint : α → Point) (points : List α),
        (a.select toPoint points).Sublist (b.select toPoint points) := by
  intro strict lax
  refine ⟨fun line p => Pattern.compile_truncate_of_reject mode,
    fun line e => Pattern.exists_compile_truncate_iff mode, ?_⟩
  intro text
  have hpatterns := ofPatterns_sublist (readable_reject_sublist mode (Text.lines text.toList))
  refine ⟨_, _, parse_skipping strict text, parse_skipping lax text, hpatterns, ?_, ?_⟩
  · intro x
    exact accepts_of_sublist hpatterns
  · intro α toPoint points
    exact List.monotone_filter_right points fun x => accepts_of_sublist hpatterns

/-- A negative half behind `#` is refused under one policy and cut to -2 under the other. -/
theorem reject_only_removes_half : ∃ e q x,
    Pattern.compile ⟨.reject, .search⟩ "/a#-2.5" = .error e ∧
    Pattern.compile ⟨.truncate, .search⟩ "/a#-2.5" = .ok q ∧ q.selector = .index (.exact (-2)) ∧
    Pattern.HasFractionalIndex "/a#-2.5" e x := by
  let path : PathExpr := ⟨"/a", _, rfl⟩
  let half : Binary64 := .signed true (.ofRatio (5 * oneUnits) 2)
  have hself : Pattern.stripComment "/a#-2.5" = "/a#-2.5" := by decide +kernel
  have hsplit : Pattern.split "/a#-2.5" = ⟨path.text, some (.index, "-2.5"), ""⟩ := by
    decide +kernel
  have hreject : Selector.parse .index .reject "-2.5" = .error (.notInteger half) := by
    decide +kernel
  have htruncate : Selector.parse .index .truncate "-2.5" = .ok (.index (.exact (-2))) := by
    decide +kernel
  have hstrict := Pattern.compile_of_split ⟨.reject, .search⟩ hself hsplit
  have hlax := Pattern.compile_of_split ⟨.truncate, .search⟩ hself hsplit
  simp only [hreject] at hstrict
  simp only [htruncate] at hlax
  obtain ⟨x, hx⟩ := ((reject_only_removes .search).2.1 _ _ hstrict).mp ⟨_, hlax⟩
  exact ⟨_, _, x, hstrict, hlax, rfl, hx⟩

end PointSelect.SelectionList
