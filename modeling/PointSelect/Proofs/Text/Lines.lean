import PointSelect.Text.Lines
import Mathlib.Data.List.Forall2
import Mathlib.Tactic.SplitIfs

namespace PointSelect.Text

/-- A text that is empty or ends in a line feed: what is put after it starts a line. -/
def EndsLine (cs : List Char) : Prop := ∀ c ∈ cs.getLast?, c = '\n'

/-- A text that stays whole on a line of its own: it holds no line feed, and no carriage return at
its end that would count as part of the line end. -/
structure OneLine (l : List Char) : Prop where
  noFeed : '\n' ∉ l
  noReturn : l.getLast? ≠ some '\r'

/-- The text with a carriage return put before each line feed. -/
def withReturns (cs : List Char) : List Char :=
  cs.flatMap fun c => if c = '\n' then ['\r', '\n'] else [c]

/-- The second line may have a carriage return more at its end. -/
def SameUpToReturn (l l' : List Char) : Prop := l' = l ∨ l' = l ++ ['\r']

/-- Along the line ends of a text: a line feed, a carriage return with a line feed, and any
character that ends no line. -/
theorem lineInduction {motive : List Char → Prop} (nil : motive [])
    (feed : ∀ cs, motive cs → motive ('\n' :: cs))
    (returnFeed : ∀ cs, motive cs → motive ('\r' :: '\n' :: cs))
    (other : ∀ c cs, c ≠ '\n' → (c = '\r' → cs.head? ≠ some '\n') → motive cs → motive (c :: cs))
    (cs : List Char) : motive cs := by
  have step : ∀ c cs, (c = '\n' → False) → (∀ ds, c = '\r' → cs = '\n' :: ds → False) →
      motive cs → motive (c :: cs) := by
    intro c cs hc hr ih
    refine other c cs hc ?_ ih
    intro hcr hh
    obtain ⟨ds, hds⟩ := List.head?_eq_some_iff.mp hh
    exact hr ds hcr hds
  induction cs using lines.induct with
  | case1 => exact nil
  | case2 cs ih => exact feed cs ih
  | case3 cs ih => exact returnFeed cs ih
  | case4 c cs hc hr hn ih => exact step c cs hc hr ih
  | case5 c cs hc hr l ls hl ih => exact step c cs hc hr ih

/-- A character that ends no line stands at the front of the first one. -/
theorem lines_cons {c : Char} {cs : List Char} (hc : c ≠ '\n')
    (hr : c = '\r' → cs.head? ≠ some '\n') :
    lines (c :: cs) = (c :: (lines cs).headD []) :: (lines cs).tail := by
  have hn : ∀ ds, c = '\r' → cs = '\n' :: ds → False := by
    rintro ds rfl rfl
    exact hr rfl rfl
  rw [lines.eq_4 c cs hc hn]
  cases lines cs with
  | nil => rfl
  | cons l ls => rfl

theorem lines_eq_nil_iff {cs : List Char} : lines cs = [] ↔ cs = [] := by
  induction cs using lineInduction with
  | nil => simp [lines]
  | feed cs ih => simp [lines]
  | returnFeed cs ih => simp [lines]
  | other c cs hc hr ih => simp [lines_cons hc hr]

theorem EndsLine.tail {c : Char} {cs : List Char} (h : EndsLine (c :: cs)) : EndsLine cs := by
  intro d hd
  apply h d
  cases cs with
  | nil => simp at hd
  | cons e es => simpa using hd

theorem EndsLine.ne_nil {c : Char} {cs : List Char} (h : EndsLine (c :: cs)) (hc : c ≠ '\n') :
    cs ≠ [] := by
  rintro rfl
  exact hc (h c rfl)

/-- Behind a finished line the lines are those of the rest alone. -/
theorem lines_append {a : List Char} (ha : EndsLine a) (b : List Char) :
    lines (a ++ b) = lines a ++ lines b := by
  induction a using lineInduction with
  | nil => simp [lines]
  | feed cs ih => simp [lines, ih ha.tail]
  | returnFeed cs ih => simp [lines, ih ha.tail.tail]
  | other c cs hc hr ih =>
    have hne : cs ≠ [] := ha.ne_nil hc
    have hr' : c = '\r' → (cs ++ b).head? ≠ some '\n' := by
      rw [List.head?_append_of_ne_nil _ hne]
      exact hr
    have hl : lines cs ≠ [] := fun h => hne (lines_eq_nil_iff.mp h)
    obtain ⟨l, ls, hls⟩ := List.exists_cons_of_ne_nil hl
    rw [List.cons_append, lines_cons hc hr', lines_cons hc hr, ih ha.tail, hls]
    rfl

/-- A finished text has as many lines as line feeds. -/
theorem EndsLine.length_lines {cs : List Char} (h : EndsLine cs) :
    (lines cs).length = cs.count '\n' := by
  induction cs using lineInduction with
  | nil => rfl
  | feed cs ih => simp [lines, ih h.tail]
  | returnFeed cs ih => simp [lines, ih h.tail.tail]
  | other c cs hc hr ih =>
    have hl : lines cs ≠ [] := fun hn => h.ne_nil hc (lines_eq_nil_iff.mp hn)
    obtain ⟨l, ls, hls⟩ := List.exists_cons_of_ne_nil hl
    rw [List.count_cons_of_ne hc, ← ih h.tail, lines_cons hc hr, hls]
    rfl

theorem feed_notMem_of_mem_lines {cs l : List Char} (h : l ∈ lines cs) : '\n' ∉ l := by
  induction cs using lineInduction generalizing l with
  | nil => simp [lines] at h
  | feed cs ih =>
    rcases List.mem_cons.mp h with rfl | hm
    · simp
    · exact ih hm
  | returnFeed cs ih =>
    rcases List.mem_cons.mp h with rfl | hm
    · simp
    · exact ih hm
  | other c cs hc hr ih =>
    rw [lines_cons hc hr] at h
    cases hl : lines cs with
    | nil =>
      have hlc : l = [c] := by simpa [hl] using h
      simpa [hlc] using hc.symm
    | cons first rest =>
      have hm : l = c :: first ∨ l ∈ rest := by simpa [hl] using h
      rcases hm with rfl | hm
      · have hf : '\n' ∉ first := ih (by simp [hl])
        simpa [hf] using hc.symm
      · exact ih (by simp [hl, hm])

theorem OneLine.tail {c : Char} {l : List Char} (h : OneLine (c :: l)) : OneLine l := by
  refine ⟨fun hm => h.noFeed (List.mem_cons_of_mem _ hm), ?_⟩
  intro hl
  apply h.noReturn
  rw [List.getLast?_cons, hl]
  rfl

theorem OneLine.head_ne {c : Char} {l : List Char} (h : OneLine (c :: l)) : c ≠ '\n' := by
  rintro rfl
  exact h.noFeed List.mem_cons_self

theorem lines_line {l : List Char} (h : OneLine l) (cs : List Char) :
    lines (l ++ '\n' :: cs) = l :: lines cs := by
  induction l with
  | nil => rfl
  | cons c l ih =>
    have hr : c = '\r' → (l ++ '\n' :: cs).head? ≠ some '\n' := by
      rintro rfl
      cases l with
      | nil => exact absurd rfl h.noReturn
      | cons d ds => simpa using h.tail.head_ne
    rw [List.cons_append, lines_cons h.head_ne hr, ih h.tail]
    rfl

/-- Texts that were put on a line each are the lines that are read. -/
theorem lines_unlines {ls : List (List Char)} (h : ∀ l ∈ ls, OneLine l) :
    lines (ls.flatMap (· ++ ['\n'])) = ls := by
  induction ls with
  | nil => rfl
  | cons l ls ih =>
    have hl := lines_line (h l List.mem_cons_self) (ls.flatMap (· ++ ['\n']))
    rw [ih fun l' hm => h l' (List.mem_cons_of_mem _ hm)] at hl
    simpa using hl

theorem head?_withReturns_ne (cs : List Char) : (withReturns cs).head? ≠ some '\n' := by
  cases cs with
  | nil => simp [withReturns]
  | cons c cs =>
    by_cases hc : c = '\n'
    · simp [withReturns, hc]
    · simp [withReturns, hc]

/-- A line keeps at most one return more, where one stood before the line feed already. -/
theorem lines_withReturns (cs : List Char) :
    List.Forall₂ SameUpToReturn (lines cs) (lines (withReturns cs)) := by
  induction cs using lineInduction with
  | nil => exact .nil
  | feed cs ih => exact .cons (.inl rfl) ih
  | returnFeed cs ih => exact .cons (.inr rfl) ih
  | other c cs hc hr ih =>
    have hw : withReturns (c :: cs) = c :: withReturns cs := by simp [withReturns, hc]
    rw [hw, lines_cons hc hr, lines_cons hc fun _ => head?_withReturns_ne cs]
    generalize lines cs = ls, lines (withReturns cs) = ls' at ih
    cases ih with
    | nil => exact .cons (.inl rfl) .nil
    | cons hl hls => exact .cons (hl.imp (congrArg _) (congrArg _)) hls

/-- A text has these lines: each is ended by a line feed, which the last one may go without. -/
def OnLines (ls : List (List Char)) (cs : List Char) : Prop :=
  cs = ls.flatMap (· ++ ['\n']) ∨ cs ++ ['\n'] = ls.flatMap (· ++ ['\n'])

theorem endsLine_flatMap (ls : List (List Char)) : EndsLine (ls.flatMap (· ++ ['\n'])) := by
  intro c hc
  rcases List.eq_nil_or_concat ls with rfl | ⟨before, l, rfl⟩
  · simp at hc
  · simpa [eq_comm] using hc

theorem lines_returnLine {l : List Char} (h : '\n' ∉ l) (cs : List Char) :
    lines (l ++ '\r' :: '\n' :: cs) = l :: lines cs := by
  induction l with
  | nil => rfl
  | cons c l ih =>
    have hc : c ≠ '\n' ∧ '\n' ∉ l := by simpa [eq_comm] using h
    have hr : c = '\r' → (l ++ '\r' :: '\n' :: cs).head? ≠ some '\n' := by
      intro _
      cases l with
      | nil => simp
      | cons d ds =>
        have hd : d ≠ '\n' := by
          rintro rfl
          exact hc.2 List.mem_cons_self
        simpa using hd
    rw [List.cons_append, lines_cons hc.1 hr, ih hc.2]
    rfl

/-- A line is read without the return at its end. -/
theorem exists_lines_fedLine {l : List Char} (h : '\n' ∉ l) (cs : List Char) :
    ∃ l', SameUpToReturn l' l ∧ lines (l ++ '\n' :: cs) = l' :: lines cs := by
  by_cases hr : l.getLast? = some '\r'
  · obtain ⟨l', rfl⟩ := List.getLast?_eq_some_iff.mp hr
    have hn : '\n' ∉ l' := fun hm => h (List.mem_append_left _ hm)
    refine ⟨l', .inr rfl, ?_⟩
    rw [List.append_assoc]
    exact lines_returnLine hn cs
  · exact ⟨l, .inl rfl, lines_line ⟨h, hr⟩ cs⟩

theorem lines_fedLines {ls : List (List Char)} (h : ∀ l ∈ ls, '\n' ∉ l) :
    List.Forall₂ SameUpToReturn (lines (ls.flatMap (· ++ ['\n']))) ls := by
  induction ls with
  | nil => exact .nil
  | cons l ls ih =>
    obtain ⟨l', hl, he⟩ := exists_lines_fedLine (h l List.mem_cons_self) (ls.flatMap (· ++ ['\n']))
    have hf : (l :: ls).flatMap (· ++ ['\n']) = l ++ '\n' :: ls.flatMap (· ++ ['\n']) := by simp
    rw [hf, he]
    exact .cons hl (ih fun l hm => h l (List.mem_cons_of_mem _ hm))

theorem lines_of_notMem {l : List Char} (h : '\n' ∉ l) : lines l = if l = [] then [] else [l] := by
  induction l with
  | nil => rfl
  | cons c l ih =>
    have hc : c ≠ '\n' ∧ '\n' ∉ l := by simpa [eq_comm] using h
    have hr : c = '\r' → l.head? ≠ some '\n' := by
      intro _ hh
      exact hc.2 (List.mem_of_mem_head? hh)
    rw [lines_cons hc.1 hr, ih hc.2]
    cases l with
    | nil => rfl
    | cons d ds => simp

/-- Up to returns at their ends the lines are read as they are, only that an empty last one without
a line feed is not seen. -/
theorem lines_of_onLines {ls : List (List Char)} {cs : List Char} (h : ∀ l ∈ ls, '\n' ∉ l)
    (on : OnLines ls cs) :
    List.Forall₂ SameUpToReturn (lines cs) ls ∨
      List.Forall₂ SameUpToReturn (lines cs ++ [[]]) ls := by
  rcases on with rfl | on
  · exact .inl (lines_fedLines h)
  · rcases List.eq_nil_or_concat ls with rfl | ⟨before, l, rfl⟩
    · simp at on
    have hcs : cs = before.flatMap (· ++ ['\n']) ++ l := by simpa [← List.append_assoc] using on
    have hb : ∀ l ∈ before, '\n' ∉ l := fun l' hm => h l' (by simp [hm])
    have hbefore := lines_fedLines hb
    rw [hcs, lines_append (endsLine_flatMap before), lines_of_notMem (h l (by simp))]
    have hl := List.rel_append hbefore (.cons (.inl rfl) .nil : List.Forall₂ SameUpToReturn [l] [l])
    split_ifs with he
    · subst he
      exact .inr (by simpa using hl)
    · exact .inl (by simpa using hl)

example : lines (withReturns ['a', '\r', '\n', 'b', '\r']) = [['a', '\r'], ['b', '\r']] := rfl

end PointSelect.Text
