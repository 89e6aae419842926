import PointSelect.Number.Integer
import PointSelect.Number.Layout
import PointSelect.Proofs.Number.Rounding
import PointSelect.Text.Blank
import Mathlib.Data.List.TakeWhile

namespace PointSelect

theorem ne_of_isDigit {c d : Char} (hc : c.isDigit = true) (hd : d.isDigit = false) : c ≠ d := by
  rintro rfl
  rw [hc] at hd
  cases hd

namespace Decimal

theorem ofDigits_eq (cs : List Char) : ofDigits cs = Nat.ofDigitChars 10 cs 0 := by
  rw [Nat.ofDigitChars_eq_foldl]
  rfl

theorem ofDigits_append (a b : List Char) :
    ofDigits (a ++ b) = 10 ^ b.length * ofDigits a + ofDigits b := by
  rw [ofDigits_eq, ofDigits_eq, ofDigits_eq, Nat.ofDigitChars_append,
    Nat.ofDigitChars_eq_ofDigitChars_zero]

theorem ofDigits_zeros (n : Nat) : ofDigits (Layout.zeros n) = 0 := by
  rw [ofDigits_eq, Layout.zeros, Nat.ofDigitChars_replicate_zero, Nat.mul_zero]

theorem ofDigits_toDigits (n : Nat) : ofDigits (Nat.toDigits 10 n) = n := by
  rw [ofDigits_eq, Nat.ofDigitChars_ten_toDigits]

theorem isDigit_of_mem_toDigits {n : Nat} {c : Char} (h : c ∈ Nat.toDigits 10 n) :
    c.isDigit = true :=
  Nat.isDigit_of_mem_toDigits (by decide) (by decide) h

theorem isDigit_of_mem_zeros {n : Nat} {c : Char} (h : c ∈ Layout.zeros n) : c.isDigit = true := by
  rw [List.eq_of_mem_replicate h]
  decide

theorem toBinary64_of_nonpos (negative : Bool) (d : Nat) {e : Int} (h : e ≤ 0) :
    toBinary64 ⟨negative, d, e⟩ = .signed negative (magnitudeOf d e) := by
  rw [toBinary64, magnitudeOf_boundedExponent d h]

/-- A text without a sign is read as this magnitude under either sign. -/
def ReadsAs (cs : List Char) (m : Magnitude) : Prop :=
  ∀ negative, ∃ x, readUnsigned? negative cs = some x ∧ x.toBinary64 = .signed negative m

theorem readsAs_digits {ds : List Char} (hne : ds ≠ []) (hd : ∀ c ∈ ds, c.isDigit = true) :
    ReadsAs ds (magnitudeOf (ofDigits ds) 0) := by
  intro negative
  have ht : ds.takeWhile Char.isDigit = ds := List.takeWhile_eq_self_iff.mpr hd
  have hr : ds.dropWhile Char.isDigit = [] := List.dropWhile_eq_nil_iff.mpr hd
  refine ⟨⟨negative, ofDigits ds, 0⟩, ?_, toBinary64_of_nonpos _ _ (Int.le_refl 0)⟩
  simp [readUnsigned?, ht, hr, hne, readExponent?]

theorem readsAs_point {whole fraction : List Char} (hne : whole ≠ [])
    (hw : ∀ c ∈ whole, c.isDigit = true) (hf : ∀ c ∈ fraction, c.isDigit = true) :
    ReadsAs (whole ++ '.' :: fraction)
      (magnitudeOf (ofDigits (whole ++ fraction)) (-(fraction.length : Int))) := by
  intro negative
  have hp : Char.isDigit '.' = false := by decide
  have ht : (whole ++ '.' :: fraction).takeWhile Char.isDigit = whole := by
    rw [List.takeWhile_append_of_pos hw]
    simp [hp]
  have hr : (whole ++ '.' :: fraction).dropWhile Char.isDigit = '.' :: fraction := by
    rw [List.dropWhile_append_of_pos hw]
    simp [hp]
  have hft : fraction.takeWhile Char.isDigit = fraction := List.takeWhile_eq_self_iff.mpr hf
  have hfr : fraction.dropWhile Char.isDigit = [] := List.dropWhile_eq_nil_iff.mpr hf
  refine ⟨⟨negative, ofDigits (whole ++ fraction), -(fraction.length : Int)⟩, ?_,
    toBinary64_of_nonpos _ _ (by omega)⟩
  simp [readUnsigned?, ht, hr, hft, hfr, hne, readExponent?]

theorem magnitudeOf_whole (d : Nat) : magnitudeOf d 0 = .ofRatio (d * oneUnits) 1 := by
  rw [magnitudeOf, if_pos (Int.le_refl 0), Int.toNat_zero, Nat.pow_eq, Nat.pow_zero, Nat.mul_one]

theorem magnitudeOf_mul_tenPow (d n : Nat) : magnitudeOf (10 ^ n * d) 0 = magnitudeOf d n := by
  rw [magnitudeOf_whole, magnitudeOf_natCast, Nat.pow_eq, Nat.mul_comm d]

end Decimal

namespace Layout

open Decimal

section

variable {ds : List Char} (hd : ∀ c ∈ ds, c.isDigit = true)
include hd

theorem readsAs_pointBefore {e : Int} (h : ds.length + e ≤ 0) :
    ReadsAs (plain.writePositional ds (ds.length + e)) (magnitudeOf (ofDigits ds) e) := by
  have ht : plain.writePositional ds (ds.length + e) =
      ['0'] ++ '.' :: (zeros (-(ds.length + e)).toNat ++ ds) := by
    simp [writePositional, h]
  have hf : ∀ c ∈ zeros (-(ds.length + e)).toNat ++ ds, c.isDigit = true := by
    intro c hc
    rcases List.mem_append.mp hc with hz | hm
    · exact isDigit_of_mem_zeros hz
    · exact hd c hm
  have hr := @readsAs_point ['0'] _ (by simp) (by simp) hf
  have hv : ofDigits (['0'] ++ (zeros (-(ds.length + e)).toNat ++ ds)) = ofDigits ds := by
    rw [ofDigits_append, ofDigits_append, ofDigits_zeros]
    simp [ofDigits]
  have he : -((zeros (-(ds.length + e)).toNat ++ ds).length : Int) = e := by
    simp only [zeros, List.length_append, List.length_replicate]
    omega
  rw [hv, he] at hr
  rw [ht]
  exact hr

theorem readsAs_pointInside {e : Int} (h : 0 < ds.length + e)
    (hlt : (ds.length + e).toNat < ds.length) :
    ReadsAs (plain.writePositional ds (ds.length + e)) (magnitudeOf (ofDigits ds) e) := by
  have ht : plain.writePositional ds (ds.length + e) =
      ds.take (ds.length + e).toNat ++ '.' :: ds.drop (ds.length + e).toNat := by
    rw [writePositional, if_neg (by omega), if_pos hlt]
  have hn : ds.take (ds.length + e).toNat ≠ [] := by
    apply List.length_pos_iff.mp
    rw [List.length_take]
    omega
  have hw : ∀ c ∈ ds.take (ds.length + e).toNat, c.isDigit = true :=
    fun c hc => hd c (List.mem_of_mem_take hc)
  have hf : ∀ c ∈ ds.drop (ds.length + e).toNat, c.isDigit = true :=
    fun c hc => hd c (List.mem_of_mem_drop hc)
  have hr := readsAs_point hn hw hf
  have he : -((ds.drop (ds.length + e).toNat).length : Int) = e := by
    rw [List.length_drop]
    omega
  rw [List.take_append_drop, he] at hr
  rw [ht]
  exact hr

theorem readsAs_noPoint (hne : ds ≠ []) (n : Nat) :
    ReadsAs (plain.writePositional ds (ds.length + (n : Int))) (magnitudeOf (ofDigits ds) n) := by
  have hlen := List.length_pos_iff.mpr hne
  have hz : (ds.length + (n : Int)).toNat - ds.length = n := by omega
  have ht : plain.writePositional ds (ds.length + (n : Int)) = ds ++ zeros n := by
    rw [writePositional, if_neg (by omega), if_neg (by omega), hz]
    simp [plain]
  have hf : ∀ c ∈ ds ++ zeros n, c.isDigit = true := by
    intro c hc
    rcases List.mem_append.mp hc with hm | hz
    · exact hd c hm
    · exact isDigit_of_mem_zeros hz
  have hr := readsAs_digits (by simp [hne]) hf
  have hv : ofDigits (ds ++ zeros n) = 10 ^ n * ofDigits ds := by
    rw [ofDigits_append, ofDigits_zeros]
    simp [zeros]
  rw [hv, magnitudeOf_mul_tenPow] at hr
  rw [ht]
  exact hr

theorem mem_writePositional {p : Int} {c : Char} (h : c ∈ plain.writePositional ds p) :
    c.isDigit = true ∨ c = '.' := by
  unfold writePositional at h
  split_ifs at h with hsmall hmid hz
  · have hc : c = '0' ∨ c = '.' ∨ c ∈ zeros (-p).toNat ∨ c ∈ ds := by simpa using h
    rcases hc with rfl | hc | hc | hc
    · exact .inl (by decide)
    · exact .inr hc
    · exact .inl (isDigit_of_mem_zeros hc)
    · exact .inl (hd c hc)
  · rcases List.mem_append.mp h with hc | hc
    · exact .inl (hd c (List.mem_of_mem_take hc))
    · rcases List.mem_cons.mp hc with hc | hc
      · exact .inr hc
      · exact .inl (hd c (List.mem_of_mem_drop hc))
  · cases hz
  · have hc : c ∈ ds ∨ c ∈ zeros (p.toNat - ds.length) := by simpa using h
    rcases hc with hc | hc
    · exact .inl (hd c hc)
    · exact .inl (isDigit_of_mem_zeros hc)

end

theorem writeDecimal_plain (d : Nat) (e : Int) : plain.writeDecimal d e =
    plain.writePositional (Nat.toDigits 10 d) ((Nat.toDigits 10 d).length + e) := rfl

/-- Wherever the point goes, the digits are read back with the exponent that they had. -/
theorem readsAs_writeDecimal (d : Nat) (e : Int) :
    ReadsAs (plain.writeDecimal d e) (magnitudeOf d e) := by
  have hd : ∀ c ∈ Nat.toDigits 10 d, c.isDigit = true := fun c => isDigit_of_mem_toDigits
  have hv := ofDigits_toDigits d
  have hne : Nat.toDigits 10 d ≠ [] := Nat.toDigits_ne_nil
  rw [writeDecimal_plain]
  generalize Nat.toDigits 10 d = ds at hd hv hne
  subst hv
  -- the point stands before the digits, among them or after them
  by_cases hsmall : ds.length + e ≤ 0
  · exact readsAs_pointBefore hd hsmall
  · by_cases hmid : (ds.length + e).toNat < ds.length
    · exact readsAs_pointInside hd (by omega) hmid
    · obtain ⟨n, rfl⟩ : ∃ n : Nat, e = n := ⟨e.toNat, by omega⟩
      exact readsAs_noPoint hd hne n

theorem writeMagnitude_of_ne {m : Magnitude} (h : m.val ≠ 0) :
    plain.writeMagnitude m =
      plain.writeDecimal (m.shortest .upper).1 (m.shortest .upper).2 := by
  rw [writeMagnitude, if_neg h]
  generalize hs : m.shortest plain.tie = p
  have hp : m.shortest .upper = p := hs
  rw [hp]

theorem writeMagnitude_of_eq {m : Magnitude} (h : m.val = 0) : plain.writeMagnitude m = ['0'] := by
  rw [writeMagnitude, if_pos h, plain, if_neg Bool.false_ne_true]

theorem readsAs_writeMagnitude (m : Magnitude) : ReadsAs (plain.writeMagnitude m) m := by
  by_cases hz : m.val = 0
  · have hm : magnitudeOf 0 0 = m := by
      rw [magnitudeOf_whole, Nat.zero_mul, Magnitude.ofRatio_underflow (by decide)]
      exact Subtype.ext hz.symm
    have hv : ofDigits ['0'] = 0 := by decide
    have hr := @readsAs_digits ['0'] (by simp) (by simp)
    rw [hv, hm] at hr
    rw [writeMagnitude_of_eq hz]
    exact hr
  · have hr := readsAs_writeDecimal (m.shortest .upper).1 (m.shortest .upper).2
    rw [Magnitude.magnitudeOf_shortest] at hr
    rw [writeMagnitude_of_ne hz]
    exact hr

theorem mem_writeMagnitude {m : Magnitude} {c : Char} (h : c ∈ plain.writeMagnitude m) :
    c.isDigit = true ∨ c = '.' := by
  by_cases hz : m.val = 0
  · rw [writeMagnitude_of_eq hz] at h
    rw [List.mem_singleton.mp h]
    exact .inl (by decide)
  · rw [writeMagnitude_of_ne hz, writeDecimal_plain] at h
    exact mem_writePositional (fun c => isDigit_of_mem_toDigits) h

end Layout

/-- The characters that plain numbers are written with. -/
def isNumeral (c : Char) : Bool := c.isDigit || ['.', '-', 'N', 'a', 'i', 'n', 'f'].contains c

theorem isNumeral_iff {c : Char} :
    isNumeral c = true ↔ c.isDigit = true ∨ c ∈ ['.', '-', 'N', 'a', 'i', 'n', 'f'] := by
  rw [isNumeral, Bool.or_eq_true, List.contains_iff_mem]

theorem isBlank_of_isNumeral {c : Char} (h : isNumeral c = true) : Text.isBlank c = false := by
  rcases isNumeral_iff.mp h with hd | hm
  · have hn : 48 ≤ c.toNat ∧ c.toNat ≤ 57 := by
      simpa [Char.isDigit, UInt32.le_iff_toNat_le] using hd
    simp only [Text.isBlank, Bool.or_eq_false_iff, Bool.and_eq_false_iff, decide_eq_false_iff_not,
      beq_eq_false_iff_ne]
    omega
  · have hall : ['.', '-', 'N', 'a', 'i', 'n', 'f'].all (fun c => !Text.isBlank c) = true := by
      decide
    have hc := List.all_eq_true.mp hall c hm
    simpa using hc

theorem ne_hash_of_isNumeral {c : Char} (h : isNumeral c = true) : c ≠ '#' := by
  rintro rfl
  revert h
  decide

theorem ne_colon_of_isNumeral {c : Char} (h : isNumeral c = true) : c ≠ ':' := by
  rintro rfl
  revert h
  decide

theorem isNumeral_of_mem_writeInt {n : Int} {c : Char} (h : c ∈ writeInt n) :
    isNumeral c = true := by
  have hd : ∀ c ∈ Nat.toDigits 10 n.natAbs, isNumeral c = true := by
    intro c hc
    simp [isNumeral, Decimal.isDigit_of_mem_toDigits hc]
  unfold writeInt at h
  split_ifs at h with hn
  · rcases List.mem_cons.mp h with rfl | hc
    · decide
    · exact hd c hc
  · exact hd c h

theorem Layout.isNumeral_of_mem_writeSize {m : Magnitude} {c : Char} (h : c ∈ plain.writeSize m) :
    isNumeral c = true := by
  rw [writeSize] at h
  cases hf : m.isFinite with
  | true =>
    rw [hf, if_pos rfl] at h
    rcases mem_writeMagnitude h with hd | hp
    · exact isNumeral_iff.mpr (.inl hd)
    · rw [hp]
      decide
  | false =>
    rw [hf, if_neg Bool.false_ne_true] at h
    have hall : ['i', 'n', 'f'].all isNumeral = true := by decide
    exact List.all_eq_true.mp hall c h

namespace Binary64

theorem isNumeral_of_mem_writeChars {x : Binary64} {c : Char} (h : c ∈ x.writeChars .plain) :
    isNumeral c = true := by
  cases x with
  | nan =>
    have hall : ['N', 'a', 'N'].all isNumeral = true := by decide
    exact List.all_eq_true.mp hall c h
  | signed negative m =>
    rw [writeChars] at h
    cases negative with
    | false =>
      rw [if_neg Bool.false_ne_true] at h
      exact Layout.isNumeral_of_mem_writeSize h
    | true =>
      rw [if_pos rfl] at h
      rcases List.mem_cons.mp h with hc | hc
      · rw [hc]
        decide
      · exact Layout.isNumeral_of_mem_writeSize hc

theorem takeSign_of_digits {cs : List Char} (h : ∀ c ∈ cs, c.isDigit = true ∨ c = '.')
    (negative : Bool) :
    Decimal.takeSign (if negative then '-' :: cs else cs) = (negative, cs) := by
  cases negative with
  | true => rfl
  | false =>
    cases cs with
    | nil => rfl
    | cons c cs =>
      have hm : c ≠ '-' := by
        rintro rfl
        exact absurd (h '-' (List.mem_cons_self)) (by decide)
      have hp : c ≠ '+' := by
        rintro rfl
        exact absurd (h '+' (List.mem_cons_self)) (by decide)
      simp [Decimal.takeSign, hm, hp]

theorem readChars?_of_readsAs {cs : List Char} {m : Magnitude} (h : Decimal.ReadsAs cs m)
    (hs : ∀ c ∈ cs, c.isDigit = true ∨ c = '.') (negative : Bool) :
    readChars? (if negative then '-' :: cs else cs) = some (.signed negative m) := by
  obtain ⟨x, hx, hm⟩ := h negative
  rw [readChars?, takeSign_of_digits hs]
  simp only [hx, hm]

theorem eq_infinite_of_isFinite_eq_false {m : Magnitude} (h : m.isFinite = false) :
    m = .infinite := by
  have hlt : ¬m.val < infiniteUnits := by
    intro hlt
    rw [Magnitude.isFinite_iff.mpr hlt] at h
    cases h
  have hle : m.val ≤ infiniteUnits := m.property.2
  have hv : m.val = infiniteUnits := Nat.le_antisymm hle (Nat.le_of_not_lt hlt)
  have hi : Magnitude.infinite.val = infiniteUnits := by rw [Magnitude.infinite]
  exact Subtype.ext (hv.trans hi.symm)

theorem readChars?_infinite (negative : Bool) :
    readChars? (if negative then ['-', 'i', 'n', 'f'] else ['i', 'n', 'f']) =
      some (.signed negative .infinite) := by
  simp only [readChars?, named?]
  generalize Magnitude.infinite = m
  cases negative with
  | false => rfl
  | true => rfl

/-- A number written plainly reads back as itself, each zero, infinity and NaN included. -/
theorem readChars?_writeChars (x : Binary64) : readChars? (x.writeChars .plain) = some x := by
  cases x with
  | nan => decide
  | signed negative m =>
    rw [writeChars, Layout.writeSize]
    cases hf : m.isFinite with
    | true =>
      rw [if_pos rfl]
      exact readChars?_of_readsAs (Layout.readsAs_writeMagnitude m)
        (fun c => Layout.mem_writeMagnitude) negative
    | false =>
      rw [if_neg Bool.false_ne_true, eq_infinite_of_isFinite_eq_false hf]
      exact readChars?_infinite negative

theorem readChars?_writeInt (n : Int) : readChars? (writeInt n) = some (.ofInt n) := by
  have hd : ∀ c ∈ Nat.toDigits 10 n.natAbs, c.isDigit = true :=
    fun c => Decimal.isDigit_of_mem_toDigits
  have hr := Decimal.readsAs_digits Nat.toDigits_ne_nil hd
  rw [Decimal.ofDigits_toDigits, Decimal.magnitudeOf_whole] at hr
  have h := readChars?_of_readsAs hr (fun c hc => .inl (hd c hc)) (n < 0)
  have hw : writeInt n = if decide (n < 0) then '-' :: Nat.toDigits 10 n.natAbs
      else Nat.toDigits 10 n.natAbs := by
    simp only [writeInt, decide_eq_true_eq]
  rw [hw, h, ofInt]

theorem read?_writeInt (n : Int) : read? (String.ofList (writeInt n)) = some (.ofInt n) := by
  rw [read?, String.toList_ofList, readChars?_writeInt]

end Binary64

section

variable {ds : List Char} (hd : ∀ c ∈ ds, c.isDigit = true)
include hd

theorem foldlM_hexDigit? (n : Nat) : (ds.foldlM (fun n c => do
      let d ← hexDigit? c
      if d < 10 then some (10 * n + d) else none) n) =
    some (ds.foldl (fun n c => 10 * n + (c.toNat - '0'.toNat)) n) := by
  induction ds generalizing n with
  | nil => rfl
  | cons c cs ih =>
    have hc := hd c List.mem_cons_self
    have hlt : c.toNat - '0'.toNat < 10 := by
      have hle : c.toNat ≤ 57 := (Char.isDigit_iff_toNat.mp hc).2
      have hzero : '0'.toNat = 48 := rfl
      omega
    have hstep : (do
        let d ← hexDigit? c
        if d < 10 then some (10 * n + d) else none) = some (10 * n + (c.toNat - '0'.toNat)) := by
      rw [hexDigit?, if_pos hc, Option.bind_eq_bind, Option.bind_some, if_pos hlt]
    rw [List.foldlM_cons, hstep, List.foldl_cons,
      ← ih fun d hm => hd d (List.mem_cons_of_mem c hm)]
    rfl

theorem readNat?_digits (hne : ds ≠ []) : readNat? 10 ds = some (Decimal.ofDigits ds) := by
  rw [readNat?, if_neg (by simpa using hne), foldlM_hexDigit? hd]
  rfl

end

/-- A decimal integer is read back. -/
theorem readInt?_writeInt (n : Int) : readInt? 10 (writeInt n) = some n := by
  have hdigit : ∀ c ∈ Nat.toDigits 10 n.natAbs, c.isDigit = true :=
    fun c => Decimal.isDigit_of_mem_toDigits
  have hread := readNat?_digits hdigit Nat.toDigits_ne_nil
  rw [Decimal.ofDigits_toDigits] at hread
  rw [writeInt]
  split_ifs with hn
  · have hneg : -(n.natAbs : Int) = n := by omega
    rw [readInt?, hread]
    exact congrArg some hneg
  · obtain ⟨c, cs, hw⟩ := List.exists_cons_of_ne_nil (Nat.toDigits_ne_nil (b := 10) (n := n.natAbs))
    rw [hw] at hdigit hread ⊢
    have hc := hdigit c List.mem_cons_self
    have hminus : c ≠ '-' := ne_of_isDigit hc (by decide)
    have hplus : c ≠ '+' := ne_of_isDigit hc (by decide)
    simp [readInt?, hminus, hplus, hread]
    omega

end PointSelect
