import PointSelect.Proofs.Json.Number

namespace PointSelect.Json

/-- The numeral that a number is written with. -/
def numeralOf (negative : Bool) (m : Magnitude) : Numeral :=
  if m.val = 0 then ⟨negative, ['0'], some ['0'], none⟩
  else decimalNumeral negative (Nat.toDigits 10 (m.shortest .even).1) (m.shortest .even).2

/-- The number that is read where a number was written. What is no finite number was written as
null. -/
def reread? (x : Binary64) : Option Binary64 := read? (writeNumber x) >>= Value.toBinary64?

theorem shortest_ne_zero {m : Magnitude} (h : m.val ≠ 0) (tie : Tie) : (m.shortest tie).1 ≠ 0 := by
  intro hz
  have hm := m.magnitudeOf_shortest tie
  rw [hz, Decimal.magnitudeOf_zero] at hm
  exact h (congrArg Subtype.val hm.symm)

theorem wellFormed_numeralOf (negative : Bool) (m : Magnitude) :
    (numeralOf negative m).WellFormed := by
  rw [numeralOf]
  split_ifs with hz
  · have hdigit : IsDigits ['0'] := ⟨by simp, by simp⟩
    exact ⟨hdigit, fun _ => rfl, by simpa using hdigit, by simp⟩
  · refine wellFormed_decimalNumeral (isDigits_toDigits _) ?_ negative _
    intro h
    exact shortest_ne_zero hz .even (eq_zero_of_head?_toDigits h)

theorem negative_decimalNumeral (negative : Bool) (ds : List Char) (e : Int) :
    (decimalNumeral negative ds e).negative = negative := by
  unfold decimalNumeral
  simp only
  split_ifs <;> rfl

theorem negative_numeralOf (negative : Bool) (m : Magnitude) :
    (numeralOf negative m).negative = negative := by
  rw [numeralOf]
  split_ifs
  · rfl
  · exact negative_decimalNumeral negative _ _

theorem unsignedText_numeralOf (negative : Bool) (m : Magnitude) :
    (numeralOf negative m).unsignedText = Layout.json.writeMagnitude m := by
  rw [numeralOf, Layout.writeMagnitude]
  split_ifs
  · rfl
  · exact absurd rfl ‹_›
  · exact unsignedText_decimalNumeral negative _ _

theorem writeNumber_signed {m : Magnitude} (h : m.isFinite = true) (negative : Bool) :
    writeNumber (.signed negative m) = (numeralOf negative m).write := by
  have hf : (Binary64.signed negative m).isFinite = true := h
  rw [writeNumber, if_pos hf, Binary64.writeChars, Layout.writeSize, if_pos h, Numeral.write,
    negative_numeralOf, unsignedText_numeralOf]

/-- The value that a number is written as. -/
def numberValue : Binary64 → Value
  | .nan => .null
  | .signed negative m => if m.isFinite then .number (numeralOf negative m) else .null

theorem readsAs_null : ReadsAs "null".toList .null := by
  intro fuel rest hfuel _
  obtain ⟨fuel, rfl⟩ : ∃ f, fuel = f + 1 := ⟨fuel - 1, by simp at hfuel; omega⟩
  rw [readValue?]
  rfl

theorem NumberToken.ascii {t : NumberToken} {c : Char} (hc : c ∈ t.text) : c.toNat < 0x80 := by
  rcases mem_text hc with hd | hm
  · have hle : c.toNat ≤ 57 := (Char.isDigit_iff_toNat.mp hd).2
    omega
  · have hall : ∀ c ∈ ['.', 'e', 'E', '-', '+'], c.toNat < 0x80 := by simp
    exact hall c hm

theorem Numeral.WellFormed.ascii {n : Numeral} (h : n.WellFormed) {c : Char} (hc : c ∈ n.write) :
    c.toNat < 0x80 :=
  NumberToken.ascii (t := h.token) hc

theorem ascii_writeNumber {x : Binary64} {c : Char} (hc : c ∈ writeNumber x) : c.toNat < 0x80 := by
  have hnull : ∀ c ∈ "null".toList, c.toNat < 0x80 := by simp
  cases x with
  | nan => exact hnull c hc
  | signed negative m =>
    cases hm : m.isFinite with
    | true =>
      rw [writeNumber_signed hm] at hc
      exact (wellFormed_numeralOf negative m).ascii hc
    | false =>
      have hf : (Binary64.signed negative m).isFinite = false := hm
      rw [writeNumber, hf, if_neg Bool.false_ne_true] at hc
      exact hnull c hc

theorem readsAs_writeNumber (x : Binary64) : ReadsAs (writeNumber x) (numberValue x) := by
  cases x with
  | nan => exact readsAs_null
  | signed negative m =>
    cases hm : m.isFinite with
    | true =>
      rw [writeNumber_signed hm, numberValue, if_pos hm]
      exact (wellFormed_numeralOf negative m).readsAs
    | false =>
      have hf : (Binary64.signed negative m).isFinite = false := hm
      rw [writeNumber, hf, if_neg Bool.false_ne_true, numberValue, hm, if_neg Bool.false_ne_true]
      exact readsAs_null

theorem toBinary64?_numberValue (x : Binary64) : (numberValue x).toBinary64? = reread? x := by
  have h : read? (writeNumber x ++ []) = some (numberValue x) :=
    (readsAs_writeNumber x).read?_append rfl
  rw [List.append_nil] at h
  rw [reread?, h]
  rfl

theorem numberValue_of_not_finite {x : Binary64} (h : x.isFinite = false) :
    numberValue x = .null := by
  cases x with
  | nan => rfl
  | signed negative m =>
    have hm : m.isFinite = false := h
    rw [numberValue, hm, if_neg Bool.false_ne_true]

/-- No number is read where no finite number was written. -/
theorem reread?_of_not_finite {x : Binary64} (h : x.isFinite = false) : reread? x = none := by
  rw [← toBinary64?_numberValue, numberValue_of_not_finite h]
  rfl

/-- A number that is read where one was written has the same sign. -/
theorem exists_signed_of_reread? {x y : Binary64} (h : reread? x = some y) :
    ∃ negative m m', x = .signed negative m ∧ y = .signed negative m' := by
  rw [← toBinary64?_numberValue] at h
  cases x with
  | nan => cases h
  | signed negative m =>
    rw [numberValue] at h
    split_ifs at h with hm
    · obtain ⟨m', -, rfl⟩ := Option.map_eq_some_iff.mp h
      rw [negative_numeralOf]
      exact ⟨negative, m, m', rfl, rfl⟩
    · cases h

theorem eq_of_reread?_of_equal {x y : Binary64} (h : reread? x = some y)
    (he : y.equal x = true) : y = x := by
  obtain ⟨negative, m, m', rfl, rfl⟩ := exists_signed_of_reread? h
  have hval : m'.val = m.val := by
    cases negative <;> simpa [Binary64.equal, Binary64.compareKeys, Binary64.key] using he
  rw [Subtype.ext hval]

namespace Document

theorem means_integer (n : Int) : (atom (writeInt n)).Means (.number (integerNumeral n)) := by
  have h := wellFormed_integerNumeral n
  rw [Means, ← write_integerNumeral, wire_eq_self fun _ => h.ascii]
  exact h.readsAs

theorem means_number (x : Binary64) : (number x).Means (numberValue x) := by
  rw [number, Means, wire_eq_self fun _ => ascii_writeNumber]
  exact readsAs_writeNumber x

end Document

end PointSelect.Json
