import PointSelect.PathExpr
import PointSelect.Proofs.Pattern.Comment
import PointSelect.Proofs.Regex.Matches
import PointSelect.Proofs.Text.Utf8
import Mathlib.Order.Basic

namespace PointSelect.Pattern

open Regex (Expr Matches)
open Text (isBlank trim)

section

variable {fresh : Bool} {before after : List Char}

/-- A text is kept up to a `#` that opens a comment, if it keeps all of itself before. -/
theorem beforeComment_mark (h : beforeComment fresh before = before)
    (hmark : (before.getLast?.map isBlank).getD fresh = true) :
    beforeComment fresh (before ++ '#' :: after) = before := by
  have hcut : beforeComment true ('#' :: after) = [] := rfl
  rw [beforeComment_append_of_eq h, hmark, hcut, List.append_nil]

/-- What is cut off begins with a `#` that opens a comment. -/
theorem exists_mark_of_ne (fresh : Bool) (cs : List Char) (h : beforeComment fresh cs ≠ cs) :
    ∃ after, cs = beforeComment fresh cs ++ '#' :: after ∧
      ((beforeComment fresh cs).getLast?.map isBlank).getD fresh = true := by
  induction cs generalizing fresh with
  | nil => exact absurd rfl h
  | cons c cs ih =>
    by_cases hc : fresh = true ∧ c = '#'
    · obtain ⟨rfl, rfl⟩ := hc
      exact ⟨cs, rfl, rfl⟩
    · rw [beforeComment_cons_of_not hc] at h ⊢
      obtain ⟨after, hcs, hmark⟩ := ih (isBlank c) fun he => h (by rw [he])
      refine ⟨after, by rw [List.cons_append, ← hcs], ?_⟩
      rwa [getD_getLast?_cons]

end

/-- The text before the first mark stays, less the blanks at its ends. -/
theorem stripChars_mark {before : List Char} (hb : ¬HasComment before)
    (hmark : ∀ c ∈ before.getLast?, isBlank c = true) (after : List Char) :
    stripChars (before ++ '#' :: after) = trim before := by
  have hfresh : (before.getLast?.map isBlank).getD true = true := by
    cases hl : before.getLast? with
    | none => rfl
    | some c => exact hmark c hl
  rw [stripChars, beforeComment_mark (beforeComment_true_eq_self_iff.mpr hb) hfresh]

theorem stripChars_of_not_hasComment {cs : List Char} (h : ¬HasComment cs) :
    stripChars cs = trim cs := by
  rw [stripChars, beforeComment_true_eq_self_iff.mpr h]

/-- Every text with a mark has a first one. -/
theorem exists_first_mark {cs : List Char} (h : HasComment cs) :
    ∃ before after, cs = before ++ '#' :: after ∧
      (∀ c ∈ before.getLast?, isBlank c = true) ∧ ¬HasComment before := by
  have hne : beforeComment true cs ≠ cs := fun he => beforeComment_true_eq_self_iff.mp he h
  obtain ⟨after, hcs, hmark⟩ := exists_mark_of_ne true cs hne
  refine ⟨beforeComment true cs, after, hcs, ?_, ?_⟩
  · intro c hc
    have hl : (beforeComment true cs).getLast? = some c := hc
    simpa [hl] using hmark
  · exact beforeComment_true_eq_self_iff.mp (beforeComment_beforeComment true cs)

/-- A `#` at the start or behind a blank goes with all that follows it, whatever stands before. -/
theorem stripChars_append_hash {before : List Char}
    (hmark : ∀ c ∈ before.getLast?, isBlank c = true) (after : List Char) :
    stripChars (before ++ '#' :: after) = stripChars before := by
  by_cases h : HasComment before
  · -- the text has a mark of its own, and that one still comes first
    obtain ⟨first, rest, rfl, hfirst, hb⟩ := exists_first_mark h
    rw [List.append_assoc, List.cons_append, stripChars_mark hb hfirst, stripChars_mark hb hfirst]
  · rw [stripChars_mark h hmark, stripChars_of_not_hasComment h]

/-- A comment that is put behind blanks goes again, whatever it holds. -/
theorem stripChars_append_comment (line : List Char) {w : List Char} (hne : w ≠ [])
    (hw : ∀ c ∈ w, isBlank c = true) (comment : List Char) :
    stripChars (line ++ (w ++ '#' :: comment)) = stripChars line := by
  have hmark : ∀ c ∈ (line ++ w).getLast?, isBlank c = true := by
    intro c hc
    rw [List.getLast?_append_of_ne_nil _ hne] at hc
    exact hw c (List.mem_of_getLast? hc)
  rw [← List.append_assoc, stripChars_append_hash hmark, stripChars_append_blanks hw]

/-- A comment with the blanks before it. -/
def commentExpr : Expr :=
  .sequence [.alt (.look .textStart) (.repeated (.set Unicode.blanks) 1 none), .char '#',
    .repeated (.set Unicode.anyChar) 0 none]

theorem compile_commentExpr : Regex.compile "(?s)(?:^|\\s+)#.*" = .ok commentExpr := by
  decide +kernel

theorem contains_blanks (c : Char) : Unicode.blanks.contains c = isBlank c := by
  have hranges : Unicode.blanks.ranges = [(9, 13), (32, 32), (133, 133), (160, 160), (5760, 5760),
      (8192, 8202), (8232, 8233), (8239, 8239), (8287, 8287), (12288, 12288)] := by
    decide +kernel
  rw [Unicode.CharSet.contains, Unicode.CharSet.containsCode, hranges, isBlank]
  generalize c.toNat = n
  rw [Bool.eq_iff_iff]
  simp
  omega

theorem contains_anyChar (c : Char) : Unicode.anyChar.contains c = true := by
  have hle : c.toNat ≤ 0x10FFFF := Nat.le_of_lt_succ (Text.Utf8.toNat_lt_of_char c)
  simpa [Unicode.anyChar, Unicode.CharSet.contains, Unicode.CharSet.containsCode,
    Unicode.CharSet.maxCode] using hle

/-- Blanks and a `#`, or a `#` at the start of the text, and as much of the text as one likes. -/
theorem matches_commentExpr_iff {cs : List Char} {i j : Nat} : Matches cs commentExpr i j ↔
    ∃ a w rest, cs = a ++ (w ++ '#' :: rest) ∧ a.length = i ∧ (∀ c ∈ w, isBlank c = true) ∧
      (w = [] → a = []) ∧ i + w.length < j ∧ j ≤ cs.length := by
  have hblank : ∀ w : List Char,
      (∀ c ∈ w, Unicode.blanks.contains c = true) ↔ ∀ c ∈ w, isBlank c = true := by
    intro w
    simp only [contains_blanks]
  simp only [commentExpr, Expr.sequence, List.foldr_cons, List.foldr_nil,
    Regex.matches_seq_iff, Regex.matches_alt_iff, Regex.matches_textStart_iff,
    Regex.matches_char_iff, Regex.matches_repeated_set_iff, Regex.matches_empty_iff, hblank]
  constructor
  · rintro ⟨k, hhead, m, ⟨a', rest, hcs, ha', rfl⟩, n, ⟨_, w', _, -, -, hn, -⟩, rfl, hle⟩
    rcases hhead with ⟨rfl, rfl⟩ | ⟨a, w, b, hcs', ha, hk, hne, hw⟩
    · obtain rfl := List.eq_nil_of_length_eq_zero ha'
      exact ⟨[], [], rest, hcs, rfl, by simp, fun _ => rfl, by rw [List.length_nil]; omega, hle⟩
    · -- the blanks end where the mark stands
      have hleft : a ++ w = a' := by
        have heq : (a ++ w) ++ b = a' ++ '#' :: rest := by rw [← hcs, hcs', List.append_assoc]
        exact (List.append_inj heq (by rw [List.length_append, ha, hk, ha'])).1
      refine ⟨a, w, rest, ?_, ha, hw, ?_, by omega, hle⟩
      · rw [hcs, ← hleft, List.append_assoc]
      · rintro rfl
        cases hne
  · rintro ⟨a, w, rest, rfl, rfl, hw, hempty, hlt, hle⟩
    have hrun : j - (a.length + w.length + 1) ≤ rest.length := by
      simp only [List.length_append, List.length_cons] at hle
      omega
    refine ⟨a.length + w.length, ?_, a.length + w.length + 1, ⟨a ++ w, rest, ?_, ?_, rfl⟩, j,
      ⟨a ++ (w ++ ['#']), rest.take (j - (a.length + w.length + 1)),
        rest.drop (j - (a.length + w.length + 1)), ?_, ?_, ?_, Nat.zero_le _,
        fun c _ => contains_anyChar c⟩, rfl, hle⟩
    · cases w with
      | nil =>
        obtain rfl := hempty rfl
        exact .inl ⟨rfl, rfl⟩
      | cons c w => exact .inr ⟨a, c :: w, '#' :: rest, rfl, rfl, rfl, by simp, hw⟩
    · rw [List.append_assoc]
    · rw [List.length_append]
    · simp
    · simp
      omega
    · rw [List.length_take_of_le hrun]
      omega

/-- A mark has a match that begins no later than it. -/
theorem exists_matches_of_mark {before : List Char}
    (hmark : ∀ c ∈ before.getLast?, isBlank c = true) (after : List Char) :
    ∃ i ≤ before.length, Matches (before ++ '#' :: after) commentExpr i
      (before ++ '#' :: after).length := by
  rcases List.eq_nil_or_concat before with rfl | ⟨a, c, rfl⟩
  · refine ⟨0, Nat.le_refl 0, matches_commentExpr_iff.mpr ?_⟩
    exact ⟨[], [], after, rfl, rfl, by simp, fun _ => rfl, by simp, Nat.le_refl _⟩
  · have hc : isBlank c = true := hmark c (by simp)
    refine ⟨a.length, by simp, matches_commentExpr_iff.mpr ?_⟩
    exact ⟨a, [c], after, by simp, rfl, by simpa using hc, by simp, by simp, Nat.le_refl _⟩

/-- Where no match is, nothing is stripped but blanks. -/
theorem stripChars_of_not_matches {cs : List Char} (h : ∀ i j, ¬Matches cs commentExpr i j) :
    stripChars cs = trim cs := by
  apply stripChars_of_not_hasComment
  rintro ⟨before, after, rfl, hmark⟩
  obtain ⟨i, -, hi⟩ := exists_matches_of_mark hmark after
  exact h i _ hi

/-- The first match stands at the first mark with the blanks before it, and reaches to the end of
the text. What is left when it is taken out is stripped by its blanks alone. -/
theorem stripChars_of_isLeftmost {cs : List Char} {i j : Nat}
    (h : Regex.IsLeftmost cs commentExpr i j) :
    stripChars cs = trim (cs.take i ++ cs.drop j) := by
  obtain ⟨a, w, rest, hcs, rfl, hw, hempty, hlt, hle⟩ := matches_commentExpr_iff.mp h.found
  have hend : j = cs.length := by
    apply Nat.le_antisymm hle
    apply h.longest
    exact matches_commentExpr_iff.mpr
      ⟨a, w, rest, hcs, rfl, hw, hempty, Nat.lt_of_lt_of_le hlt hle, Nat.le_refl _⟩
  have hmark : ∀ c ∈ (a ++ w).getLast?, isBlank c = true := by
    intro c hc
    by_cases hne : w = []
    · rw [hne, hempty hne] at hc
      cases hc
    · rw [List.getLast?_append_of_ne_nil _ hne] at hc
      exact hw c (List.mem_of_getLast? hc)
  have hhash := hash_notMem_of_isBlank hw
  have hfirst : ¬HasComment (a ++ w) := by
    rintro ⟨before, after, hb, hm⟩
    -- an earlier mark would have a match that begins before this one
    obtain ⟨i, hi, hmatch⟩ := exists_matches_of_mark hm (after ++ '#' :: rest)
    have hcs' : before ++ '#' :: (after ++ '#' :: rest) = cs := by
      rw [hcs, ← List.append_assoc, hb, List.append_assoc, List.cons_append]
    rw [hcs'] at hmatch
    have hbegin : a.length ≤ before.length := (h.first _ _ hmatch).trans hi
    rcases List.append_eq_append_iff.mp hb with ⟨more, -, hmore⟩ | ⟨more, hleft, hmore⟩
    · exact hhash (by simp [hmore])
    · cases more with
      | nil => exact hhash (by rw [List.nil_append] at hmore; simp [← hmore])
      | cons d more =>
        rw [hleft, List.length_append, List.length_cons] at hbegin
        omega
  rw [← List.append_assoc] at hcs
  rw [hend, List.drop_length, List.append_nil, hcs, stripChars_mark hfirst hmark,
    Text.trim_append_blanks hw, List.append_assoc, List.take_left]

/-- A line loses its comment and no more: what stands before the first `#` that begins the line or
follows a blank is kept, without the blanks at its ends. The comment is the first match of the
expression for comments, as long as it gets. Nothing is left to strip then, and no comment put
behind blanks at the end of the line makes a difference, line breaks in it or not. -/
theorem stripComment_law (line : String) :
    ((¬HasComment line.toList ∧ stripComment line = String.ofList (trim line.toList)) ∨
      ∃ before after, line.toList = before ++ '#' :: after ∧
        (∀ c ∈ before.getLast?, isBlank c = true) ∧ ¬HasComment before ∧
        stripComment line = String.ofList (trim before)) ∧
    (∃ e, Regex.compile "(?s)(?:^|\\s+)#.*" = .ok e ∧
      (((∀ i j, ¬Matches line.toList e i j) ∧ stripComment line = String.ofList (trim line.toList)) ∨
        ∃ i j, Regex.IsLeftmost line.toList e i j ∧
          stripComment line = String.ofList (trim (line.toList.take i ++ line.toList.drop j)))) ∧
    stripComment (stripComment line) = stripComment line ∧
    ¬HasComment (stripComment line).toList ∧
    ∀ w comment : String, w ≠ "" → (∀ c ∈ w.toList, isBlank c = true) →
      stripComment (line ++ w ++ "#" ++ comment) = stripComment line := by
  refine ⟨?_, ⟨commentExpr, compile_commentExpr, ?_⟩, stripComment_stripComment line,
    stripComment_hasNoComment line, ?_⟩
  · by_cases h : HasComment line.toList
    · obtain ⟨before, after, hline, hmark, hb⟩ := exists_first_mark h
      refine .inr ⟨before, after, hline, hmark, hb, ?_⟩
      rw [stripComment, hline, stripChars_mark hb hmark]
    · exact .inl ⟨h, by rw [stripComment, stripChars_of_not_hasComment h]⟩
  · by_cases h : ∃ i j, Matches line.toList commentExpr i j
    · obtain ⟨i, j, hij⟩ := h
      obtain ⟨i, j, hfirst⟩ := Regex.exists_isLeftmost hij
      exact .inr ⟨i, j, hfirst, by rw [stripComment, stripChars_of_isLeftmost hfirst]⟩
    · have hnone : ∀ i j, ¬Matches line.toList commentExpr i j := fun i j hij => h ⟨i, j, hij⟩
      exact .inl ⟨hnone, by rw [stripComment, stripChars_of_not_matches hnone]⟩
  · intro w comment hne hw
    have hne' : w.toList ≠ [] := by simpa using hne
    rw [stripComment, stripComment, ← stripChars_append_comment line.toList hne' hw comment.toList]
    simp

end PointSelect.Pattern
