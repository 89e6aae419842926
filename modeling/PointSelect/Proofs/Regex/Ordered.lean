import PointSelect.PathExpr

namespace PointSelect

namespace Regex

/-- The least count of a repetition is at most its greatest one, wherever one stands. -/
def Expr.Ordered : Expr → Prop
  | .seq a b => a.Ordered ∧ b.Ordered
  | .alt a b => a.Ordered ∧ b.Ordered
  | .group e => e.Ordered
  | .repeated e min max => e.Ordered ∧ ∀ m ∈ max, min ≤ m
  | _ => True

/-- What is read on a level holds ordered repetitions only. -/
structure Level.Ordered (l : Level) : Prop where
  elements : ∀ x ∈ l.elements, ∀ e ∈ x.expr?, e.Ordered
  alternatives : ∀ x ∈ l.alternatives, x.1.Ordered

/-- So does all that waits for the current group to be closed. -/
structure Progress.Ordered (p : Progress) : Prop where
  level : p.level.Ordered
  groups : ∀ g ∈ p.groups, g.outer.Ordered

theorem exists_of_bind_eq_ok {ε α β : Type} {x : Except ε α} {f : α → Except ε β} {b : β}
    (h : (x >>= f) = .ok b) : ∃ a, x = .ok a ∧ f a = .ok b := by
  cases x with
  | error e => cases h
  | ok a => exact ⟨a, rfl, h⟩

theorem Expr.ordered_sequence {es : List Expr} (h : ∀ e ∈ es, e.Ordered) :
    (sequence es).Ordered := by
  induction es with
  | nil => trivial
  | cons e es ih =>
    obtain ⟨he, hes⟩ := List.forall_mem_cons.mp h
    exact ⟨he, ih hes⟩

theorem Expr.ordered_choice {es : List Expr} (h : ∀ e ∈ es, e.Ordered) : (choice es).Ordered := by
  induction es with
  | nil => trivial
  | cons e es ih =>
    obtain ⟨he, hes⟩ := List.forall_mem_cons.mp h
    cases es with
    | nil => exact he
    | cons d ds => exact ⟨he, ih hes⟩

theorem Element.ordered_close {elements : List Element}
    (h : ∀ x ∈ elements, ∀ e ∈ x.expr?, e.Ordered) : (close elements).1.Ordered := by
  unfold close
  split
  · trivial
  · next e d => exact h (.expr e d) (List.mem_singleton_self _) e rfl
  · trivial
  · apply Expr.ordered_sequence
    intro e he
    obtain ⟨x, hx, hxe⟩ := List.mem_filterMap.mp he
    exact h x (List.mem_reverse.mp hx) e hxe

namespace Level

theorem ordered_empty : Ordered {} := ⟨by simp, by simp⟩

variable {l : Level}

theorem Ordered.push (h : l.Ordered) {e : Expr} (he : e.Ordered) (depth : Nat) :
    (l.push e depth).Ordered := by
  refine ⟨List.forall_mem_cons.mpr ⟨?_, h.elements⟩, h.alternatives⟩
  intro e' he'
  obtain rfl := Option.some.inj he'
  exact he

theorem Ordered.endAlternative (h : l.Ordered) : l.endAlternative.Ordered :=
  ⟨by simp [Level.endAlternative],
    List.forall_mem_cons.mpr ⟨Element.ordered_close h.elements, h.alternatives⟩⟩

theorem Ordered.close (h : l.Ordered) : l.close.1.Ordered := by
  have hlast := Element.ordered_close h.elements
  unfold Level.close
  split
  · exact hlast
  · apply Expr.ordered_choice
    intro e he
    obtain ⟨x, hx, rfl⟩ := List.mem_map.mp he
    rcases List.mem_cons.mp (List.mem_reverse.mp hx) with rfl | hx
    · exact hlast
    · exact h.alternatives x hx

end Level

namespace Parser

section

variable {flags : Flags} {cs rest : List Char} {e : Expr}

theorem ordered_literalExpr {c : Char} {byte : Bool} (h : literalExpr flags c byte = .ok e) :
    e.Ordered := by
  unfold literalExpr at h
  grind [Expr.Ordered]

theorem ordered_dotExpr (h : dotExpr flags = .ok e) : e.Ordered := by
  unfold dotExpr at h
  grind [Expr.Ordered]

theorem ordered_readAtom (h : readAtom flags cs = .ok (e, rest)) : e.Ordered := by
  unfold readAtom at h
  split at h
  · cases h
  · obtain ⟨⟨atom, rest'⟩, -, h⟩ := exists_of_bind_eq_ok h
    cases atom with
    | literal c byte =>
      obtain ⟨e', he, h⟩ := exists_of_bind_eq_ok h
      cases h
      exact ordered_literalExpr he
    | look l =>
      cases h
      trivial
    | set s =>
      cases h
      trivial
  · obtain ⟨e', he, h⟩ := exists_of_bind_eq_ok h
    cases h
    exact ordered_dotExpr he
  · cases h
    trivial
  · cases h
    trivial
  · obtain ⟨e', he, h⟩ := exists_of_bind_eq_ok h
    cases h
    exact ordered_literalExpr he

/-- Counts are read only in their order. -/
theorem le_of_readCounts {verbose : Bool} {min : Nat} {max : Option Nat}
    (h : readCounts verbose cs = .ok ((min, max), rest)) : ∀ m ∈ max, min ≤ m := by
  unfold readCounts at h
  simp only at h
  split at h
  · cases h
  · obtain ⟨⟨least, rest'⟩, -, h⟩ := exists_of_bind_eq_ok h
    simp only at h
    split at h
    · cases h
    · split at h
      · cases h
      · cases h
      · cases h
        simp
      · obtain ⟨⟨most, rest''⟩, -, h⟩ := exists_of_bind_eq_ok h
        simp only at h
        split at h
        · cases h
        · split at h
          · next hle =>
            cases h
            simpa using hle
          · cases h
        · cases h
    · split at h
      · cases h
      · cases h
        simp
    · split at h <;> cases h

end

section

variable {p q : Progress} {cs rest : List Char}

theorem ordered_openGroup (h : p.Ordered) (captures : Bool) (flags : Flags) (names : List String) :
    (openGroup p captures flags names).Ordered :=
  ⟨Level.ordered_empty, List.forall_mem_cons.mpr ⟨h.level, h.groups⟩⟩

theorem ordered_readOpening (h : p.Ordered) (hread : readOpening p cs = .ok (q, rest)) :
    q.Ordered := by
  unfold readOpening at hread
  simp only at hread
  split at hread
  · cases hread
  · cases hread
  · cases hread
  · cases hread
  · obtain ⟨⟨name, rest'⟩, -, hread⟩ := exists_of_bind_eq_ok hread
    cases hread
    exact ordered_openGroup h ..
  · obtain ⟨⟨name, rest'⟩, -, hread⟩ := exists_of_bind_eq_ok hread
    cases hread
    exact ordered_openGroup h ..
  · split at hread
    · cases hread
    · obtain ⟨⟨changes, rest'⟩, -, hread⟩ := exists_of_bind_eq_ok hread
      simp only at hread
      split at hread
      · split at hread
        · cases hread
        · cases hread
          exact ⟨⟨List.forall_mem_cons.mpr ⟨by simp [Element.expr?], h.level.elements⟩,
            h.level.alternatives⟩, h.groups⟩
      · cases hread
        exact ordered_openGroup h ..
  · cases hread
    exact ordered_openGroup h ..

theorem ordered_closeGroup (h : p.Ordered) (hclose : closeGroup p = .ok q) : q.Ordered := by
  have hlevel := h.level.close
  unfold closeGroup at hclose
  split at hclose
  · cases hclose
  · next g groups hgroups =>
    have hg := h.groups
    rw [hgroups] at hg
    obtain ⟨houter, hrest⟩ := List.forall_mem_cons.mp hg
    cases hclose
    refine ⟨houter.push ?_ _, hrest⟩
    split
    · exact hlevel
    · exact hlevel

theorem ordered_repeatLast (h : p.Ordered) {min : Nat} {max : Option Nat}
    (hle : ∀ m ∈ max, min ≤ m) (hrepeat : repeatLast p min max = .ok q) : q.Ordered := by
  unfold repeatLast at hrepeat
  split at hrepeat
  · next e depth elements helements =>
    have hall := h.level.elements
    rw [helements] at hall
    obtain ⟨he, hrest⟩ := List.forall_mem_cons.mp hall
    cases hrepeat
    refine ⟨⟨List.forall_mem_cons.mpr ⟨?_, hrest⟩, h.level.alternatives⟩, h.groups⟩
    intro e' he'
    obtain rfl := Option.some.inj he'
    exact ⟨he e rfl, hle⟩
  · cases hrepeat

/-- No step of the reader makes a repetition whose counts are out of order. -/
theorem ordered_step (h : p.Ordered) (hstep : step p cs = .ok (q, rest)) : q.Ordered := by
  unfold step at hstep
  split at hstep
  · cases hstep
    exact h
  · exact ordered_readOpening h hstep
  · obtain ⟨q', hclose, hstep⟩ := exists_of_bind_eq_ok hstep
    cases hstep
    exact ordered_closeGroup h hclose
  · cases hstep
    exact ⟨h.level.endAlternative, h.groups⟩
  · obtain ⟨⟨⟨s, depth⟩, rest'⟩, -, hstep⟩ := exists_of_bind_eq_ok hstep
    cases hstep
    have hs : (Expr.set s).Ordered := trivial
    exact ⟨h.level.push hs depth, h.groups⟩
  · obtain ⟨q', hrepeat, hstep⟩ := exists_of_bind_eq_ok hstep
    cases hstep
    exact ordered_repeatLast h (by simp) hrepeat
  · obtain ⟨q', hrepeat, hstep⟩ := exists_of_bind_eq_ok hstep
    cases hstep
    exact ordered_repeatLast h (by simp) hrepeat
  · obtain ⟨q', hrepeat, hstep⟩ := exists_of_bind_eq_ok hstep
    cases hstep
    exact ordered_repeatLast h (by simp) hrepeat
  · obtain ⟨⟨⟨min, max⟩, rest'⟩, hcounts, hstep⟩ := exists_of_bind_eq_ok hstep
    obtain ⟨q', hrepeat, hstep⟩ := exists_of_bind_eq_ok hstep
    cases hstep
    exact ordered_repeatLast h (le_of_readCounts hcounts) hrepeat
  · obtain ⟨⟨e, rest'⟩, hatom, hstep⟩ := exists_of_bind_eq_ok hstep
    cases hstep
    exact ⟨h.level.push (ordered_readAtom hatom) 0, h.groups⟩

theorem ordered_readAll (h : p.Ordered) {fuel : Nat} (hread : readAll p fuel cs = .ok q) :
    q.Ordered := by
  induction fuel generalizing p cs with
  | zero => cases hread
  | succ fuel ih =>
    rw [readAll] at hread
    split at hread
    · cases hread
      exact h
    · obtain ⟨⟨p', rest⟩, hstep, hread⟩ := exists_of_bind_eq_ok hread
      exact ih (ordered_step h hstep) hread

end

theorem ordered_read {cs : List Char} {e : Expr} (h : read cs = .ok e) : e.Ordered := by
  obtain ⟨p, hread, h⟩ := exists_of_bind_eq_ok h
  have hp : p.Ordered := ordered_readAll ⟨Level.ordered_empty, by simp⟩ hread
  have hclose := hp.level.close
  generalize p.level.close = whole at h hclose
  split at h
  · cases h
  · simp only at h
    split at h
    · cases h
      exact hclose
    · cases h

end Parser

end Regex

/-- A path expression repeats nothing between counts that are out of order. -/
theorem PathExpr.ordered (e : PathExpr) : e.expr.Ordered := by
  obtain ⟨x, hread, h⟩ := Regex.exists_of_bind_eq_ok e.compiles
  split at h
  · cases h
    exact Regex.Parser.ordered_read hread
  · cases h

end PointSelect
