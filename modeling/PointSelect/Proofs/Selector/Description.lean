import PointSelect.Proofs.Number.PlainText
import PointSelect.Selector.Basic

namespace PointSelect

namespace Text

/-- A text without control characters: all of it stands on one line. -/
def Printable (cs : List Char) : Prop := ∀ c ∈ cs, 0x20 ≤ c.toNat

instance (cs : List Char) : Decidable (Printable cs) :=
  List.decidableBAll (fun c : Char => 0x20 ≤ c.toNat) cs

section

variable {a b : List Char} {c : Char}

theorem Printable.notMem (h : Printable a) (hc : c.toNat < 0x20) : c ∉ a := by
  intro hm
  exact Nat.not_le.mpr hc (h c hm)

theorem Printable.of_subset (h : Printable b) (hs : a ⊆ b) : Printable a := fun c hc => h c (hs hc)

theorem printable_append_iff : Printable (a ++ b) ↔ Printable a ∧ Printable b :=
  List.forall_mem_append

theorem printable_cons_iff : Printable (c :: a) ↔ 0x20 ≤ c.toNat ∧ Printable a :=
  List.forall_mem_cons

theorem printable_of_digits (h : ∀ c ∈ a, c.isDigit = true) : Printable a := by
  intro c hc
  have hd := h c hc
  simp only [Char.isDigit, Bool.and_eq_true, decide_eq_true_eq] at hd
  exact Nat.le_trans (by decide) hd.1

theorem printable_toDigits (n : Nat) : Printable (Nat.toDigits 10 n) :=
  printable_of_digits fun _ => Decimal.isDigit_of_mem_toDigits

theorem printable_writeInt (n : Int) : Printable (writeInt n) := by
  have hd := printable_toDigits n.natAbs
  unfold writeInt
  split_ifs
  · exact printable_cons_iff.mpr ⟨by decide, hd⟩
  · exact hd

end

end Text

open Text

namespace Layout

variable (l : Layout) {ds : List Char}

theorem printable_zeros (n : Nat) : Printable (zeros n) :=
  printable_of_digits fun _ => Decimal.isDigit_of_mem_zeros

theorem printable_writePositional (hd : Printable ds) (p : Int) :
    Printable (l.writePositional ds p) := by
  unfold writePositional
  split_ifs with hsmall hmid hz
  · simp [printable_append_iff, printable_cons_iff, printable_zeros, hd]
  · have htake := hd.of_subset (List.take_subset p.toNat ds)
    have hdrop := hd.of_subset (List.drop_subset p.toNat ds)
    simp [printable_append_iff, printable_cons_iff, htake, hdrop]
  · have hlast : Printable ['.', '0'] := by decide
    simp [printable_append_iff, printable_zeros, hd, hlast]
  · simp [printable_append_iff, printable_zeros, hd]

theorem printable_writeScientific (hd : Printable ds) (e : Int) :
    Printable (l.writeScientific ds e) := by
  have hsign : Printable (if e < 0 then ['-'] else if l.plusSign then ['+'] else []) := by
    split_ifs <;> decide
  have hexponent := printable_append_iff.mpr
    ⟨printable_cons_iff.mpr ⟨(by decide : 0x20 ≤ 'e'.toNat), hsign⟩, printable_toDigits e.natAbs⟩
  unfold writeScientific
  rw [List.append_assoc]
  refine printable_append_iff.mpr ⟨?_, hexponent⟩
  split
  · simpa [printable_cons_iff] using hd
  · exact hd

theorem printable_writeDecimal (d : Nat) (e : Int) : Printable (l.writeDecimal d e) := by
  have hd := printable_toDigits d
  rw [writeDecimal]
  split_ifs
  · exact l.printable_writePositional hd _
  · exact l.printable_writeScientific hd _

theorem printable_writeMagnitude (m : Magnitude) : Printable (l.writeMagnitude m) := by
  unfold writeMagnitude
  split_ifs
  · decide
  · decide
  · exact l.printable_writeDecimal _ _

theorem printable_writeSize (m : Magnitude) : Printable (l.writeSize m) := by
  unfold writeSize
  split_ifs
  · exact l.printable_writeMagnitude m
  · decide

end Layout

/-- A number stands on one line, however it is laid out. -/
theorem Binary64.printable_writeChars (l : Layout) (x : Binary64) :
    Printable (x.writeChars l) := by
  cases x with
  | nan =>
    rw [writeChars]
    decide
  | signed negative m =>
    have hm := l.printable_writeSize m
    rw [writeChars]
    split_ifs
    · exact printable_cons_iff.mpr ⟨by decide, hm⟩
    · exact hm

theorem Binary64.printable_write (l : Layout) (x : Binary64) : Printable (x.write l).toList := by
  rw [write, String.toList_ofList]
  exact x.printable_writeChars l

theorem Interval.printable_describe (r : Interval) : Printable r.describe.toList := by
  have hlo := r.lo.printable_write .report
  have hhi := r.hi.printable_write .report
  unfold describe
  -- under names of their own, or the texts of the bounds would be computed
  generalize r.lo.write .report = lo at hlo
  generalize r.hi.write .report = hi at hhi
  simp only [String.toList_append, printable_append_iff, hlo, hhi]
  decide

/-- A selector is shown on one line. -/
theorem Selector.printable_describe (s : Selector) : Printable s.describe.toList := by
  cases s with
  | unrestricted =>
    rw [describe]
    decide
  | index target =>
    cases target with
    | exact n =>
      simp only [describe, String.toList_append, String.toList_ofList, printable_append_iff,
        printable_writeInt]
      decide
    | range r =>
      simp only [describe, String.toList_append, printable_append_iff, r.printable_describe]
      decide
  | position target =>
    cases target with
    | exact x =>
      simp only [describe, String.toList_append, printable_append_iff, Binary64.printable_write]
      decide
    | range r =>
      simp only [describe, String.toList_append, printable_append_iff, r.printable_describe]
      decide

end PointSelect
