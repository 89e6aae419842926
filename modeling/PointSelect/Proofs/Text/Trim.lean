import PointSelect.Text.Blank
import Mathlib.Data.List.DropRight

namespace PointSelect.Text

/-- No blank stands at either end. -/
structure Trimmed (cs : List Char) : Prop where
  first : ∀ c ∈ cs.head?, isBlank c = false
  last : ∀ c ∈ cs.getLast?, isBlank c = false

theorem trim_prefix (cs : List Char) : trim cs <+: cs.dropWhile isBlank :=
  List.rdropWhile_prefix isBlank (cs.dropWhile isBlank)

theorem trim_trimmed (cs : List Char) : Trimmed (trim cs) := by
  constructor
  · intro c hc
    have hh := List.head?_dropWhile_not isBlank cs
    obtain ⟨tail, ht⟩ := trim_prefix cs
    cases hs : trim cs with
    | nil => simp [hs] at hc
    | cons d ds =>
      have hd : d = c := by simpa [hs] using hc
      rw [← ht, hs, hd] at hh
      simpa using hh
  · intro c hc
    have hne : trim cs ≠ [] := by
      intro h
      simp [h] at hc
    have hl : (trim cs).getLast hne = c := by
      simpa [List.getLast?_eq_some_getLast hne] using hc
    have h := List.rdropWhile_last_not isBlank (cs.dropWhile isBlank) hne
    change ¬isBlank ((trim cs).getLast hne) at h
    simpa [hl] using h

theorem trim_of_trimmed {cs : List Char} (h : Trimmed cs) : trim cs = cs := by
  have hd : cs.dropWhile isBlank = cs := by
    cases cs with
    | nil => rfl
    | cons c cs => simp [h.first c rfl]
  have he : cs.rdropWhile isBlank = cs := by
    apply List.rdropWhile_eq_self_iff.mpr
    intro hne
    simp [h.last _ (List.getLast?_eq_some_getLast hne)]
  change (cs.dropWhile isBlank).rdropWhile isBlank = cs
  rw [hd, he]

theorem trim_trim (cs : List Char) : trim (trim cs) = trim cs :=
  trim_of_trimmed (trim_trimmed cs)

theorem trimEnd_prefix (cs : List Char) : trimEnd cs <+: cs := List.rdropWhile_prefix isBlank cs

theorem trimEnd_append_blanks {w : List Char} (hw : ∀ c ∈ w, isBlank c = true) (cs : List Char) :
    trimEnd (cs ++ w) = trimEnd cs := by
  have hr : ∀ c ∈ w.reverse, isBlank c = true := by simpa using hw
  rw [trimEnd, List.reverse_append, List.dropWhile_append_of_pos hr]
  rfl

/-- Blanks put at the end go again. -/
theorem trim_append_blanks {w : List Char} (hw : ∀ c ∈ w, isBlank c = true) (cs : List Char) :
    trim (cs ++ w) = trim cs := by
  rw [trim, trim, List.dropWhile_append]
  split
  · next hd =>
    -- nothing but blanks: the new ones are dropped from the front already
    rw [List.isEmpty_iff.mp hd, List.dropWhile_eq_nil_iff.mpr hw]
  · exact trimEnd_append_blanks hw _

theorem Trimmed.append {cs w : List Char} (h : Trimmed cs) (hw : ∀ c ∈ w, isBlank c = false) :
    Trimmed (cs ++ w) := by
  constructor
  · intro c hc
    cases cs with
    | nil => exact hw c (List.mem_of_mem_head? hc)
    | cons d cs => exact h.first c hc
  · intro c hc
    cases w with
    | nil =>
      rw [List.append_nil] at hc
      exact h.last c hc
    | cons d w =>
      rw [List.getLast?_append_of_ne_nil _ (List.cons_ne_nil d w)] at hc
      exact hw c (List.mem_of_mem_getLast? hc)

/-- Behind a trimmed text only the new end is trimmed. -/
theorem trim_append {cs : List Char} (h : Trimmed cs) (hne : cs ≠ []) (tail : List Char) :
    trim (cs ++ tail) = cs ++ trimEnd tail := by
  have hfirst : (cs ++ tail).dropWhile isBlank = cs ++ tail := by
    cases cs with
    | nil => exact absurd rfl hne
    | cons c cs => exact List.dropWhile_cons_of_neg (by simp [h.first c rfl])
  have hlast : cs.reverse.dropWhile isBlank = cs.reverse := by
    cases hr : cs.reverse with
    | nil => rfl
    | cons c ds =>
      have hc : cs.getLast? = some c := by rw [← List.head?_reverse, hr, List.head?_cons]
      exact List.dropWhile_cons_of_neg (by simp [h.last c hc])
  rw [trim, hfirst, trimEnd, trimEnd, List.reverse_append, List.dropWhile_append]
  split
  · next hd =>
    rw [hlast, List.reverse_reverse, List.isEmpty_iff.mp hd, List.reverse_nil, List.append_nil]
  · rw [List.reverse_append, List.reverse_reverse]

/-- The end of a trimmed text may be replaced by a text without blanks. -/
theorem Trimmed.replace {a b w : List Char} {c : Char} (h : Trimmed (a ++ c :: b))
    (hw : ∀ d ∈ c :: w, isBlank d = false) : Trimmed (a ++ c :: w) := by
  constructor
  · intro d hd
    apply h.first d
    cases a with
    | nil => exact hd
    | cons e es => exact hd
  · intro d hd
    rw [List.getLast?_append_of_ne_nil _ (List.cons_ne_nil c w)] at hd
    exact hw d (List.mem_of_mem_getLast? hd)

end PointSelect.Text
