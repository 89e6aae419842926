import PointSelect.Pattern.Comment
import PointSelect.Proofs.Text.Trim

namespace PointSelect.Pattern

open Text (isBlank trim)

/-- A `#` stands at the start of the text or right after a blank. -/
def HasComment (cs : List Char) : Prop :=
  ∃ before after, cs = before ++ '#' :: after ∧ ∀ c ∈ before.getLast?, isBlank c = true

/-- Of a text after `c` the last character counts, or `c` itself if the text is empty. -/
theorem getD_getLast?_cons (fresh : Bool) (c : Char) (cs : List Char) :
    ((c :: cs).getLast?.map isBlank).getD fresh = (cs.getLast?.map isBlank).getD (isBlank c) := by
  rw [List.getLast?_cons]
  cases cs.getLast? <;> rfl

@[simp]
theorem beforeComment_nil (fresh : Bool) : beforeComment fresh [] = [] := rfl

theorem beforeComment_cons (fresh : Bool) (c : Char) (cs : List Char) :
    beforeComment fresh (c :: cs) =
      if fresh && c == '#' then [] else c :: beforeComment (isBlank c) cs := rfl

theorem beforeComment_cons_of_not {fresh : Bool} {c : Char} (h : ¬(fresh = true ∧ c = '#'))
    (cs : List Char) : beforeComment fresh (c :: cs) = c :: beforeComment (isBlank c) cs := by
  simp [beforeComment_cons, h]

/-- A text keeps all of itself if its first character does and what follows that one does. -/
theorem beforeComment_cons_eq_self {fresh : Bool} {c : Char} {cs : List Char} :
    beforeComment fresh (c :: cs) = c :: cs ↔
      ¬(fresh = true ∧ c = '#') ∧ beforeComment (isBlank c) cs = cs := by
  by_cases h : fresh = true ∧ c = '#'
  · simp [beforeComment_cons, h]
  · simp [beforeComment_cons_of_not h, h]

theorem beforeComment_beforeComment (fresh : Bool) (cs : List Char) :
    beforeComment fresh (beforeComment fresh cs) = beforeComment fresh cs := by
  induction cs generalizing fresh with
  | nil => rfl
  | cons c cs ih =>
    by_cases h : fresh = true ∧ c = '#'
    · simp [beforeComment_cons, h]
    · rw [beforeComment_cons_of_not h]
      exact beforeComment_cons_eq_self.mpr ⟨h, ih _⟩

theorem beforeComment_isPrefix (fresh : Bool) (cs : List Char) : beforeComment fresh cs <+: cs := by
  induction cs generalizing fresh with
  | nil => exact List.prefix_rfl
  | cons c cs ih =>
    by_cases h : fresh = true ∧ c = '#'
    · simp [beforeComment_cons, h]
    · rw [beforeComment_cons_of_not h]
      exact List.cons_prefix_cons.mpr ⟨rfl, ih _⟩

theorem beforeComment_left {fresh : Bool} {a b : List Char}
    (h : beforeComment fresh (a ++ b) = a ++ b) : beforeComment fresh a = a := by
  induction a generalizing fresh with
  | nil => rfl
  | cons c a ih =>
    obtain ⟨hc, ht⟩ := beforeComment_cons_eq_self.mp h
    exact beforeComment_cons_eq_self.mpr ⟨hc, ih ht⟩

/-- Blanks at the start go without exposing a comment: whatever follows a blank was judged as if it
stood at the start. -/
theorem beforeComment_dropWhile {cs : List Char} (h : beforeComment true cs = cs) :
    beforeComment true (cs.dropWhile isBlank) = cs.dropWhile isBlank := by
  induction cs with
  | nil => rfl
  | cons c cs ih =>
    cases hb : isBlank c with
    | false => simpa [hb] using h
    | true =>
      have ht := (beforeComment_cons_eq_self.mp h).2
      rw [hb] at ht
      simpa [hb] using ih ht

theorem beforeComment_trim {cs : List Char} (h : beforeComment true cs = cs) :
    beforeComment true (trim cs) = trim cs := by
  obtain ⟨tail, ht⟩ := Text.trim_prefix cs
  apply beforeComment_left (b := tail)
  rw [ht]
  exact beforeComment_dropWhile h

/-- Text without a `#` opens no comment, whatever stands before it. -/
theorem beforeComment_of_notMem {fresh : Bool} {cs : List Char} (h : '#' ∉ cs) :
    beforeComment fresh cs = cs := by
  induction cs generalizing fresh with
  | nil => rfl
  | cons c cs ih =>
    have hc : c ≠ '#' ∧ '#' ∉ cs := by simpa [eq_comm] using h
    exact beforeComment_cons_eq_self.mpr ⟨fun h => hc.1 h.2, ih hc.2⟩

/-- A text that keeps all of itself does so whatever follows, and its last character says how that
is judged. -/
theorem beforeComment_append_of_eq {fresh : Bool} {a : List Char} (h : beforeComment fresh a = a)
    (b : List Char) : beforeComment fresh (a ++ b) =
      a ++ beforeComment ((a.getLast?.map isBlank).getD fresh) b := by
  induction a generalizing fresh with
  | nil => rfl
  | cons c a ih =>
    obtain ⟨hc, ht⟩ := beforeComment_cons_eq_self.mp h
    rw [getD_getLast?_cons, List.cons_append, beforeComment_cons_of_not hc, ih ht,
      List.cons_append]

theorem beforeComment_append {fresh : Bool} {a b : List Char} (ha : beforeComment fresh a = a)
    (hb : '#' ∉ b) : beforeComment fresh (a ++ b) = a ++ b := by
  rw [beforeComment_append_of_eq ha, beforeComment_of_notMem hb]

/-- What has kept all of itself opens no comment, and the other way round; `fresh` stands for what
comes before the text. -/
theorem beforeComment_eq_self_iff {fresh : Bool} {cs : List Char} :
    beforeComment fresh cs = cs ↔ ∀ before after, cs = before ++ '#' :: after →
      (before.getLast?.map isBlank).getD fresh = false := by
  constructor
  · intro h before after hcs
    induction before generalizing fresh cs with
    | nil =>
      subst hcs
      have hc := (beforeComment_cons_eq_self.mp h).1
      simpa using hc
    | cons b before ih =>
      subst hcs
      rw [getD_getLast?_cons]
      exact ih (beforeComment_cons_eq_self.mp h).2 rfl
  · intro h
    induction cs generalizing fresh with
    | nil => rfl
    | cons c cs ih =>
      refine beforeComment_cons_eq_self.mpr ⟨?_, ih ?_⟩
      · rintro ⟨hf, rfl⟩
        have hn := h [] cs rfl
        simp [hf] at hn
      · intro before after hcs
        rw [← getD_getLast?_cons fresh]
        exact h (c :: before) after (by rw [hcs]; rfl)

theorem beforeComment_true_eq_self_iff {cs : List Char} :
    beforeComment true cs = cs ↔ ¬HasComment cs := by
  rw [beforeComment_eq_self_iff]
  constructor
  · rintro h ⟨before, after, hcs, hb⟩
    have hn := h before after hcs
    cases hl : before.getLast? with
    | none => simp [hl] at hn
    | some d => simp [hl, hb d hl] at hn
  · intro h before after hcs
    by_contra hn
    apply h
    refine ⟨before, after, hcs, ?_⟩
    intro c hc
    have hl : before.getLast? = some c := hc
    simpa [hl] using hn

/-- Nothing is left to strip from a text exactly if it holds no comment and no blank at an end. -/
theorem stripChars_eq_self_iff {cs : List Char} :
    stripChars cs = cs ↔ ¬HasComment cs ∧ Text.Trimmed cs := by
  constructor
  · intro h
    have hk : beforeComment true (stripChars cs) = stripChars cs :=
      beforeComment_trim (beforeComment_beforeComment true cs)
    rw [h] at hk
    refine ⟨beforeComment_true_eq_self_iff.mp hk, ?_⟩
    rw [← h]
    exact Text.trim_trimmed _
  · rintro ⟨hc, ht⟩
    rw [stripChars, beforeComment_true_eq_self_iff.mpr hc]
    exact Text.trim_of_trimmed ht

theorem stripChars_stripChars (line : List Char) : stripChars (stripChars line) = stripChars line := by
  have h : beforeComment true (stripChars line) = stripChars line :=
    beforeComment_trim (beforeComment_beforeComment true line)
  rw [stripChars, h]
  exact Text.trim_trim _

theorem hash_notMem_of_isBlank {w : List Char} (hw : ∀ c ∈ w, isBlank c = true) : '#' ∉ w := by
  intro hm
  cases hw '#' hm

/-- Text without a `#` at the end of a line is kept as it is or goes with the comment before it. -/
theorem beforeComment_append_or (fresh : Bool) (a : List Char) {b : List Char} (hb : '#' ∉ b) :
    beforeComment fresh (a ++ b) = beforeComment fresh a ∨
      beforeComment fresh (a ++ b) = beforeComment fresh a ++ b := by
  induction a generalizing fresh with
  | nil => exact .inr (beforeComment_of_notMem hb)
  | cons c a ih =>
    by_cases h : fresh = true ∧ c = '#'
    · exact .inl (by simp [beforeComment_cons, h])
    · rw [List.cons_append, beforeComment_cons_of_not h, beforeComment_cons_of_not h]
      exact (ih _).imp (congrArg _) (congrArg _)

/-- Stripping only takes characters away. -/
theorem stripChars_sublist (line : List Char) : (stripChars line).Sublist line := by
  have hkept : (beforeComment true line).Sublist line := (beforeComment_isPrefix true line).sublist
  have hdropped : ((beforeComment true line).dropWhile isBlank).Sublist (beforeComment true line) :=
    List.dropWhile_sublist isBlank
  have htrim := Text.trim_prefix (beforeComment true line)
  exact htrim.sublist.trans (hdropped.trans hkept)

/-- Blanks at the end of a line mean nothing. -/
theorem stripChars_append_blanks {w : List Char} (hw : ∀ c ∈ w, isBlank c = true)
    (line : List Char) : stripChars (line ++ w) = stripChars line := by
  rcases beforeComment_append_or true line (hash_notMem_of_isBlank hw) with h | h
  · rw [stripChars, h]
    rfl
  · rw [stripChars, h]
    exact Text.trim_append_blanks hw _

@[simp]
theorem stripComment_stripComment (line : String) :
    stripComment (stripComment line) = stripComment line := by
  simp [stripComment, stripChars_stripChars]

theorem stripComment_eq_self_iff {text : String} :
    stripComment text = text ↔ stripChars text.toList = text.toList := by
  constructor
  · intro h
    have hl := congrArg String.toList h
    simpa [stripComment] using hl
  · intro h
    rw [stripComment, h, String.ofList_toList]

theorem stripComment_hasNoComment (line : String) : ¬HasComment (stripComment line).toList := by
  have h := stripComment_eq_self_iff.mp (stripComment_stripComment line)
  exact (stripChars_eq_self_iff.mp h).1

end PointSelect.Pattern
