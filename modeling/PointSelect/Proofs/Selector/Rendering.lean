import PointSelect.Proofs.Number.PlainText
import PointSelect.Proofs.Selector.Reading

namespace PointSelect

namespace Selector

theorem bne_colon_of_notMem {cs : List Char} (h : ':' ∉ cs) : ∀ c ∈ cs, (c != ':') = true := by
  intro c hc
  exact bne_iff_ne.mpr (ne_of_mem_of_not_mem hc h)

theorem splitRange?_of_notMem {body : List Char} (h : ':' ∉ body) : splitRange? body = none := by
  rw [splitRange?, List.dropWhile_eq_nil_iff.mpr (bne_colon_of_notMem h)]

theorem splitRange?_append {lo : List Char} (h : ':' ∉ lo) (hi : List Char) :
    splitRange? (lo ++ ':' :: hi) = some (lo, hi) := by
  have hp := bne_colon_of_notMem h
  rw [splitRange?, List.dropWhile_append_of_pos hp, List.takeWhile_append_of_pos hp]
  simp

end Selector

open Selector

theorem colon_notMem {cs : List Char} (h : ∀ c ∈ cs, isNumeral c = true) : ':' ∉ cs := by
  intro hm
  exact ne_colon_of_isNumeral (h ':' hm) rfl

namespace Interval

theorem isNumeral_of_mem_writeBound {missing x : Binary64} {c : Char}
    (h : c ∈ writeBound missing x) : isNumeral c = true := by
  unfold writeBound at h
  split_ifs at h with hx
  · cases h
  · exact Binary64.isNumeral_of_mem_writeChars h

/-- A bound is read back, left out or not. -/
theorem readBound_writeBound (missing x : Binary64) :
    readBound missing (writeBound missing x) = .ok x := by
  by_cases hx : x = missing
  · rw [writeBound, if_pos hx, hx]
    rfl
  · have hr := readNumber_eq_ok_iff.mpr (Binary64.readChars?_writeChars x)
    rw [writeBound, if_neg hx, readBound, isEmpty_eq_false_of_readNumber hr, hr]
    rfl

theorem splitRange?_writeChars (r : Interval) :
    splitRange? r.writeChars =
      some (writeBound .negInfinity r.lo, writeBound .infinity r.hi) := by
  rw [writeChars]
  exact splitRange?_append (colon_notMem fun c => isNumeral_of_mem_writeBound) _

theorem mem_writeChars {r : Interval} {c : Char} (h : c ∈ r.writeChars) :
    isNumeral c = true ∨ c = ':' := by
  rw [writeChars] at h
  rcases List.mem_append.mp h with hlo | hrest
  · exact .inl (isNumeral_of_mem_writeBound hlo)
  · rcases List.mem_cons.mp hrest with hc | hhi
    · exact .inr hc
    · exact .inl (isNumeral_of_mem_writeBound hhi)

end Interval

namespace Selector

/-- The integer that an index selector holds is a number itself, with no fraction to reject. -/
theorem exactIndex_ofInt {policy : IndexPolicy} {x : Binary64} {n : Int64}
    (h : exactIndex policy x = .ok n) (policy' : IndexPolicy) :
    exactIndex policy' (.ofInt n.toInt) = .ok n := by
  obtain ⟨hf, -, hn⟩ := exactIndex_eq_ok_iff.mp h
  obtain ⟨hfin, hwhole, htrunc⟩ := Binary64.truncate_ofInt_truncate hf
  rw [← hn] at hfin hwhole htrunc
  exact exactIndex_eq_ok_iff.mpr ⟨hfin, fun _ => hwhole, htrunc.symm⟩

/-- A text after a marker that stands for a selector under every policy. -/
structure Renders (k : Coordinate) (w : List Char) (s : Selector) : Prop where
  denotes : ∀ policy, Denotes policy k w s
  chars : ∀ c ∈ w, isNumeral c = true ∨ c = ':'

/-- What a selector writes after its marker stands for that selector, whatever it was read from. -/
theorem exists_renders {k : Coordinate} {policy : IndexPolicy} {body : List Char} {s : Selector}
    (h : Denotes policy k body s) : ∃ w, s.writeChars = k.marker :: w ∧ Renders k w s := by
  cases h with
  | @indexExact _ x n single number whole =>
    have hc : ∀ c ∈ writeInt n.toInt, isNumeral c = true := fun c => isNumeral_of_mem_writeInt
    refine ⟨writeInt n.toInt, rfl, ?_, fun c hm => .inl (hc c hm)⟩
    intro policy'
    exact .indexExact (splitRange?_of_notMem (colon_notMem hc))
      (readNumber_eq_ok_iff.mpr (Binary64.readChars?_writeInt n.toInt))
      (exactIndex_ofInt whole policy')
  | @positionExact _ x single number =>
    have hc : ∀ c ∈ x.writeChars .plain, isNumeral c = true :=
      fun c => Binary64.isNumeral_of_mem_writeChars
    refine ⟨x.writeChars .plain, rfl, ?_, fun c hm => .inl (hc c hm)⟩
    intro policy'
    exact .positionExact (splitRange?_of_notMem (colon_notMem hc))
      (readNumber_eq_ok_iff.mpr (Binary64.readChars?_writeChars x))
  | @indexRange _ _ _ r double lower upper =>
    refine ⟨r.writeChars, rfl, ?_, fun _ => Interval.mem_writeChars⟩
    intro policy'
    exact .indexRange r.splitRange?_writeChars (Interval.readBound_writeBound _ _)
      (Interval.readBound_writeBound _ _)
  | @positionRange _ _ _ r double lower upper =>
    refine ⟨r.writeChars, rfl, ?_, fun _ => Interval.mem_writeChars⟩
    intro policy'
    exact .positionRange r.splitRange?_writeChars (Interval.readBound_writeBound _ _)
      (Interval.readBound_writeBound _ _)

end Selector

end PointSelect
