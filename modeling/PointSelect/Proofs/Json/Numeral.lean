import PointSelect.Proofs.Json.Document
import PointSelect.Proofs.Number.PlainText

namespace PointSelect.Json

/-- A run of at least one digit. -/
structure IsDigits (ds : List Char) : Prop where
  ne_nil : ds ≠ []
  isDigit : ∀ c ∈ ds, c.isDigit = true

namespace Numeral

def fractionText (fraction : Option (List Char)) : List Char := fraction.elim [] ('.' :: ·)

def exponentText (exponent : Option (Bool × List Char)) : List Char :=
  exponent.elim [] fun x => 'e' :: (if x.1 then '-' else '+') :: x.2

/-- The text of a numeral without its sign. A sign stands before every exponent. -/
def unsignedText (n : Numeral) : List Char :=
  n.whole ++ (fractionText n.fraction ++ exponentText n.exponent)

/-- The text of a numeral. -/
def write (n : Numeral) : List Char := if n.negative then '-' :: n.unsignedText else n.unsignedText

/-- Digits at all places where some are written, and no zero in front. -/
structure WellFormed (n : Numeral) : Prop where
  whole : IsDigits n.whole
  zero : n.whole.head? = some '0' → n.whole.length = 1
  fraction : ∀ ds ∈ n.fraction, IsDigits ds
  exponent : ∀ x ∈ n.exponent, IsDigits x.2

end Numeral

/-- The ways to write an exponent: after a letter of either case, with or without a plus sign. -/
inductive SpellsExponent : List Char → Option (Bool × List Char) → Prop where
  | none : SpellsExponent [] none
  | minus {c : Char} {ds : List Char} (h : c = 'e' ∨ c = 'E') :
    SpellsExponent (c :: '-' :: ds) (some (true, ds))
  | plus {c : Char} {ds : List Char} (h : c = 'e' ∨ c = 'E') :
    SpellsExponent (c :: '+' :: ds) (some (false, ds))
  | bare {c : Char} {ds : List Char} (h : c = 'e' ∨ c = 'E') :
    SpellsExponent (c :: ds) (some (false, ds))

theorem SpellsExponent.head {text : List Char} {exponent : Option (Bool × List Char)}
    (h : SpellsExponent text exponent) : ∀ c ∈ text.head?, c = 'e' ∨ c = 'E' := by
  cases h <;> simp [*]

theorem SpellsExponent.mem {text : List Char} {exponent : Option (Bool × List Char)}
    (h : SpellsExponent text exponent) {c : Char} (hc : c ∈ text) :
    c ∈ ['e', 'E', '-', '+'] ∨ ∃ x ∈ exponent, c ∈ x.2 := by
  cases h with
  | none => cases hc
  | minus he | plus he | bare he =>
    rcases he with rfl | rfl <;> simp at hc ⊢ <;> tauto

/-- A number as JSON's grammar has it: a numeral, and the way its exponent is written. -/
structure NumberToken where
  numeral : Numeral
  exponent : List Char
  wellFormed : numeral.WellFormed
  spells : SpellsExponent exponent numeral.exponent

namespace NumberToken

/-- The text of a number without its sign. -/
def unsignedText (t : NumberToken) : List Char :=
  t.numeral.whole ++ (Numeral.fractionText t.numeral.fraction ++ t.exponent)

def text (t : NumberToken) : List Char :=
  if t.numeral.negative then '-' :: t.unsignedText else t.unsignedText

end NumberToken

theorem NumberToken.text_ne_nil (t : NumberToken) : t.text ≠ [] := by
  rw [text]
  split_ifs
  · simp
  · simp [unsignedText, t.wellFormed.whole.ne_nil]

/-- The characters of a number. -/
theorem NumberToken.mem_text {t : NumberToken} {c : Char} (hc : c ∈ t.text) :
    c.isDigit = true ∨ c ∈ ['.', 'e', 'E', '-', '+'] := by
  obtain ⟨n, exponent, h, spells⟩ := t
  have hfraction : c ∈ Numeral.fractionText n.fraction → c.isDigit = true ∨ c = '.' := by
    intro hm
    cases hf : n.fraction with
    | none => simp [hf, Numeral.fractionText] at hm
    | some ds =>
      rw [hf] at hm
      exact (List.mem_cons.mp hm).symm.imp ((h.fraction ds hf).isDigit c) id
  have hexponent : c ∈ exponent → c.isDigit = true ∨ c ∈ ['e', 'E', '-', '+'] := by
    intro hm
    rcases spells.mem hm with hs | ⟨x, hx, hd⟩
    · exact .inr hs
    · exact .inl ((h.exponent x hx).isDigit c hd)
  have hunsigned : c ∈ n.whole ++ (Numeral.fractionText n.fraction ++ exponent) →
      c.isDigit = true ∨ c ∈ ['.', 'e', 'E', '-', '+'] := by
    intro hm
    rcases List.mem_append.mp hm with hw | hm
    · exact .inl (h.whole.isDigit c hw)
    · rcases List.mem_append.mp hm with hf | he
      · exact (hfraction hf).imp id fun hp => by simp [hp]
      · exact (hexponent he).imp id fun hp => List.mem_cons_of_mem _ hp
  rw [text, unsignedText] at hc
  split_ifs at hc
  · rcases List.mem_cons.mp hc with rfl | hm
    · exact .inr (by simp)
    · exact hunsigned hm
  · exact hunsigned hc

theorem Numeral.spellsExponent (exponent : Option (Bool × List Char)) :
    SpellsExponent (exponentText exponent) exponent := by
  cases exponent with
  | none => exact .none
  | some x =>
    obtain ⟨negative, ds⟩ := x
    cases negative with
    | true => exact .minus (.inl rfl)
    | false => exact .plus (.inl rfl)

/-- A numeral as it is written here. -/
def Numeral.WellFormed.token {n : Numeral} (h : n.WellFormed) : NumberToken :=
  ⟨n, exponentText n.exponent, h, spellsExponent n.exponent⟩

section

variable {rest : List Char}

theorem takeDigits?_append {ds : List Char} (h : IsDigits ds)
    (hrest : ∀ c ∈ rest.head?, c.isDigit = false) : takeDigits? (ds ++ rest) = some (ds, rest) := by
  have ht : rest.takeWhile Char.isDigit = [] := by
    cases rest with
    | nil => rfl
    | cons c cs => simp [hrest c rfl]
  have hd : rest.dropWhile Char.isDigit = rest := by
    cases rest with
    | nil => rfl
    | cons c cs => simp [hrest c rfl]
  rw [takeDigits?, List.takeWhile_append_of_pos h.isDigit, List.dropWhile_append_of_pos h.isDigit,
    ht, hd, List.append_nil]
  simp [h.ne_nil]

theorem readExponent?_append {text : List Char} {exponent : Option (Bool × List Char)}
    (spells : SpellsExponent text exponent) (h : ∀ x ∈ exponent, IsDigits x.2)
    (hrest : Ends rest) : readExponent? (text ++ rest) = some (exponent, rest) := by
  have hdigits : ∀ {negative ds}, exponent = some (negative, ds) →
      takeDigits? (ds ++ rest) = some (ds, rest) :=
    fun hx => takeDigits?_append (h _ hx) fun c hc => (hrest c hc).1
  cases spells with
  | none =>
    cases rest with
    | nil => rfl
    | cons c cs =>
      obtain ⟨-, -, he, hE⟩ := hrest c rfl
      simp [readExponent?, he, hE]
  | minus hc => rcases hc with rfl | rfl <;> simp [readExponent?, hdigits rfl]
  | plus hc => rcases hc with rfl | rfl <;> simp [readExponent?, hdigits rfl]
  | @bare c ds hc =>
    -- the sign is looked for in front of the digits
    obtain ⟨d, ds, rfl⟩ := List.exists_cons_of_ne_nil (h _ rfl).ne_nil
    have hd : d.isDigit = true := (h _ rfl).isDigit d List.mem_cons_self
    have hminus : d ≠ '-' := ne_of_isDigit hd (by decide)
    have hplus : d ≠ '+' := ne_of_isDigit hd (by decide)
    have ht := hdigits rfl
    rw [List.cons_append] at ht
    rcases hc with rfl | rfl <;> simp [readExponent?, hminus, hplus, ht]

theorem readFraction?_append {fraction : Option (List Char)} (h : ∀ ds ∈ fraction, IsDigits ds)
    (hrest : ∀ c ∈ rest.head?, c.isDigit = false ∧ c ≠ '.') :
    readFraction? (Numeral.fractionText fraction ++ rest) = some (fraction, rest) := by
  cases fraction with
  | none =>
    cases rest with
    | nil => rfl
    | cons c cs =>
      have hc : c ≠ '.' := (hrest c rfl).2
      simp [Numeral.fractionText, readFraction?, hc]
  | some ds =>
    have ht := takeDigits?_append (h _ rfl) fun c hc => (hrest c hc).1
    simp [Numeral.fractionText, readFraction?, ht]

/-- A number is read back from its text. -/
theorem readNumber?_unsignedText (t : NumberToken) (hrest : Ends rest) :
    readNumber? t.numeral.negative (t.unsignedText ++ rest) = some (t.numeral, rest) := by
  obtain ⟨n, exponent, h, spells⟩ := t
  have hexp : ∀ c ∈ (exponent ++ rest).head?, c.isDigit = false ∧ c ≠ '.' := by
    intro c hc
    cases exponent with
    | nil => exact ⟨(hrest c hc).1, (hrest c hc).2.1⟩
    | cons d ds =>
      obtain rfl : d = c := Option.some.inj hc
      rcases spells.head d rfl with rfl | rfl <;> decide
  have hfrac : ∀ c ∈ (Numeral.fractionText n.fraction ++ (exponent ++ rest)).head?,
      c.isDigit = false := by
    intro c hc
    cases hf : n.fraction with
    | none =>
      rw [hf] at hc
      exact (hexp c hc).1
    | some ds =>
      obtain rfl : '.' = c := by simpa [hf, Numeral.fractionText] using hc
      decide
  have hzero : ¬(n.whole.head? == some '0' && n.whole.length ≠ 1) = true := by
    simpa using h.zero
  rw [NumberToken.unsignedText, List.append_assoc, List.append_assoc, readNumber?,
    takeDigits?_append h.whole hfrac]
  simp only [Option.bind_eq_bind, Option.bind_some]
  rw [if_neg hzero, readFraction?_append h.fraction hexp]
  simp only [Option.bind_some]
  rw [readExponent?_append spells h.exponent hrest]
  rfl

theorem readValue?_negative (fuel : Nat) (cs : List Char) :
    readValue? (fuel + 1) ('-' :: cs) =
      (readNumber? true cs).map fun (n, rest) => (.number n, rest) := by
  rw [readValue?]
  rfl

theorem readValue?_digit (fuel : Nat) {c : Char} (h : c.isDigit = true) (cs : List Char) :
    readValue? (fuel + 1) (c :: cs) =
      (readNumber? false (c :: cs)).map fun (n, rest) => (.number n, rest) := by
  have hne : ∀ d, d.isDigit = false → c ≠ d := fun d => ne_of_isDigit h
  have hblank : skipBlanks (c :: cs) = c :: cs := by
    simp [skipBlanks, hne ' ' (by decide), hne '\n' (by decide), hne '\t' (by decide),
      hne '\r' (by decide)]
  rw [readValue?, hblank]
  split
  · exact absurd (List.cons.inj ‹_›).1 (hne '"' (by decide))
  · exact absurd (List.cons.inj ‹_›).1 (hne '[' (by decide))
  · exact absurd (List.cons.inj ‹_›).1 (hne '\x7b' (by decide))
  · exact absurd (List.cons.inj ‹_›).1 (hne '-' (by decide))
  · obtain ⟨rfl, rfl⟩ := List.cons.inj ‹_›
    rw [if_pos h]
  · exact absurd ‹_› (by simp)

/-- A number is read from its text as a value. -/
theorem NumberToken.readsAs (t : NumberToken) : ReadsAs t.text (.number t.numeral) := by
  intro fuel rest hfuel hrest
  have hread := readNumber?_unsignedText t hrest
  obtain ⟨c, cs, hw⟩ := List.exists_cons_of_ne_nil t.wellFormed.whole.ne_nil
  have hc : c.isDigit = true := t.wellFormed.whole.isDigit c (by simp [hw])
  have htext : t.unsignedText =
      c :: (cs ++ (Numeral.fractionText t.numeral.fraction ++ t.exponent)) := by
    rw [unsignedText, hw]
    rfl
  cases hn : t.numeral.negative with
  | true =>
    rw [hn] at hread
    rw [text, hn, if_pos rfl] at hfuel ⊢
    obtain ⟨fuel, rfl⟩ : ∃ f, fuel = f + 1 := ⟨fuel - 1, by simp at hfuel; omega⟩
    rw [List.cons_append, readValue?_negative, hread]
    rfl
  | false =>
    rw [hn] at hread
    rw [text, hn, if_neg Bool.false_ne_true] at hfuel ⊢
    obtain ⟨fuel, rfl⟩ : ∃ f, fuel = f + 1 := ⟨fuel - 1, by simp [htext] at hfuel; omega⟩
    rw [htext, List.cons_append] at hread ⊢
    rw [readValue?_digit fuel hc, hread]
    rfl

/-- A numeral that is written is read back as a value. -/
theorem Numeral.WellFormed.readsAs {n : Numeral} (h : n.WellFormed) :
    ReadsAs n.write (.number n) := h.token.readsAs

end

/-- The numeral of a whole number. -/
def integerNumeral (n : Int) : Numeral := ⟨n < 0, Nat.toDigits 10 n.natAbs, none, none⟩

theorem isDigits_toDigits (n : Nat) : IsDigits (Nat.toDigits 10 n) :=
  ⟨Nat.toDigits_ne_nil, fun _ => Decimal.isDigit_of_mem_toDigits⟩

/-- The digits of a number begin with a zero only if it is zero. -/
theorem eq_zero_of_head?_toDigits {n : Nat} (h : (Nat.toDigits 10 n).head? = some '0') : n = 0 := by
  induction n using Nat.strongRecOn with
  | ind n ih =>
    rcases Nat.lt_or_ge n 10 with hn | hn
    · rw [Nat.toDigits_of_lt_base hn] at h
      have hall : ∀ i < 10, [Nat.digitChar i].head? = some '0' → i = 0 := by decide
      exact hall n hn h
    · rw [Nat.toDigits_of_base_le (by decide) hn,
        List.head?_append_of_ne_nil _ Nat.toDigits_ne_nil] at h
      have hz : n / 10 = 0 := ih (n / 10) (by omega) h
      omega

theorem wellFormed_integerNumeral (n : Int) : (integerNumeral n).WellFormed := by
  refine ⟨isDigits_toDigits n.natAbs, ?_, by simp [integerNumeral], by simp [integerNumeral]⟩
  intro h
  rw [integerNumeral, eq_zero_of_head?_toDigits h]
  rfl

theorem write_integerNumeral (n : Int) : (integerNumeral n).write = writeInt n := by
  simp [Numeral.write, Numeral.unsignedText, integerNumeral, writeInt, Numeral.fractionText,
    Numeral.exponentText]

theorem toInt64?_integerNumeral (n : Int64) : (integerNumeral n.toInt).toInt64? = some n := by
  have hrange : InInt64 n.toInt := ⟨n.le_toInt, n.toInt_lt⟩
  have hsign : ¬(decide (n.toInt < 0) && decide (n.toInt.natAbs = 0)) = true := by
    simp
    omega
  have habs : (if decide (n.toInt < 0) = true then -(n.toInt.natAbs : Int) else n.toInt.natAbs) =
      n.toInt := by
    split_ifs with hn
    · have := of_decide_eq_true hn
      omega
    · have : ¬n.toInt < 0 := fun h => hn (decide_eq_true h)
      omega
  rw [Numeral.toInt64?, integerNumeral]
  simp only [Option.isSome_none, Bool.or_self, Bool.false_eq_true, if_false,
    Decimal.ofDigits_toDigits]
  rw [if_neg hsign, habs, PointSelect.toInt64?, if_pos hrange, Int64.ofInt_toInt]

/-- The numeral that a number ± `ds` · 10 ^ `e` is written with. -/
def decimalNumeral (negative : Bool) (ds : List Char) (e : Int) : Numeral :=
  let p := ds.length + e
  if p < -4 ∨ 16 < p then
    ⟨negative, ds.take 1, if ds.length = 1 then none else some (ds.drop 1),
      some (decide (p - 1 < 0), Nat.toDigits 10 (p - 1).natAbs)⟩
  else if p ≤ 0 then ⟨negative, ['0'], some (Layout.zeros (-p).toNat ++ ds), none⟩
  else if p.toNat < ds.length then ⟨negative, ds.take p.toNat, some (ds.drop p.toNat), none⟩
  else ⟨negative, ds ++ Layout.zeros (p.toNat - ds.length), some ['0'], none⟩

section

variable {ds : List Char} (hds : IsDigits ds)
include hds

theorem isDigits_take {n : Nat} (h : 0 < n) : IsDigits (ds.take n) := by
  refine ⟨?_, fun c hc => hds.isDigit c (List.mem_of_mem_take hc)⟩
  simpa [List.take_eq_nil_iff] using ⟨by omega, hds.ne_nil⟩

theorem isDigits_drop {n : Nat} (h : n < ds.length) : IsDigits (ds.drop n) := by
  refine ⟨?_, fun c hc => hds.isDigit c (List.mem_of_mem_drop hc)⟩
  simpa [List.drop_eq_nil_iff] using h

theorem isDigits_zeros_append (n : Nat) : IsDigits (Layout.zeros n ++ ds) := by
  refine ⟨by simp [hds.ne_nil], ?_⟩
  intro c hc
  rcases List.mem_append.mp hc with hz | hm
  · exact Decimal.isDigit_of_mem_zeros hz
  · exact hds.isDigit c hm

theorem isDigits_append_zeros (n : Nat) : IsDigits (ds ++ Layout.zeros n) := by
  refine ⟨by simp [hds.ne_nil], ?_⟩
  intro c hc
  rcases List.mem_append.mp hc with hm | hz
  · exact hds.isDigit c hm
  · exact Decimal.isDigit_of_mem_zeros hz

theorem wellFormed_decimalNumeral (hzero : ds.head? ≠ some '0') (negative : Bool) (e : Int) :
    (decimalNumeral negative ds e).WellFormed := by
  have hlen : 0 < ds.length := List.length_pos_iff.mpr hds.ne_nil
  have hdigit : IsDigits ['0'] := ⟨by simp, by simp⟩
  have htake : ∀ n, 0 < n → (ds.take n).head? ≠ some '0' := by
    intro n hn
    rwa [List.head?_take, if_neg (by omega)]
  unfold decimalNumeral
  simp only
  split_ifs with hsci hone hsmall hmid
  · exact ⟨isDigits_take hds (by decide), fun h => absurd h (htake 1 (by decide)), by simp,
      by simp [isDigits_toDigits]⟩
  · have hdrop : IsDigits (ds.drop 1) := isDigits_drop hds (by omega)
    exact ⟨isDigits_take hds (by decide), fun h => absurd h (htake 1 (by decide)),
      by simpa using hdrop, by simp [isDigits_toDigits]⟩
  · exact ⟨hdigit, fun _ => rfl, by simpa using isDigits_zeros_append hds _, by simp⟩
  · exact ⟨isDigits_take hds (by omega), fun h => absurd h (htake _ (by omega)),
      by simpa using isDigits_drop hds hmid, by simp⟩
  · refine ⟨isDigits_append_zeros hds _, fun h => absurd h ?_, by simpa using hdigit, by simp⟩
    rwa [List.head?_append_of_ne_nil _ hds.ne_nil]

end

theorem isPositional_json {p : Int} :
    Layout.json.isPositional p = true ↔ ¬(p < -4 ∨ 16 < p) := by
  have h : Layout.json.isPositional p = (decide (-4 ≤ p) && decide (p ≤ 16)) := rfl
  rw [h, Bool.and_eq_true, decide_eq_true_eq, decide_eq_true_eq]
  omega

theorem writeScientific_json {ds : List Char} (h : ds ≠ []) (e : Int) :
    Layout.json.writeScientific ds e =
      ds.take 1 ++ (Numeral.fractionText (if ds.length = 1 then none else some (ds.drop 1)) ++
        Numeral.exponentText (some (decide (e < 0), Nat.toDigits 10 e.natAbs))) := by
  have hsign : (if e < 0 then ['-'] else if Layout.json.plusSign then ['+'] else []) =
      [if decide (e < 0) then '-' else '+'] := by
    by_cases he : e < 0
    · simp [he]
    · simp [he, Layout.json]
  unfold Layout.writeScientific
  rw [hsign]
  cases ds with
  | nil => exact absurd rfl h
  | cons c cs =>
    cases cs with
    | nil => rfl
    | cons c' cs => simp [Numeral.fractionText, Numeral.exponentText]

/-- A decimal number is written as its numeral. -/
theorem unsignedText_decimalNumeral (negative : Bool) (d : Nat) (e : Int) :
    (decimalNumeral negative (Nat.toDigits 10 d) e).unsignedText =
      Layout.json.writeDecimal d e := by
  have hne : Nat.toDigits 10 d ≠ [] := Nat.toDigits_ne_nil
  rw [Layout.writeDecimal]
  generalize Nat.toDigits 10 d = ds at hne
  unfold decimalNumeral
  simp only
  by_cases hsci : ds.length + e < -4 ∨ 16 < ds.length + e
  · have hp : ¬Layout.json.isPositional (ds.length + e) = true :=
      fun h => isPositional_json.mp h hsci
    rw [if_pos hsci, if_neg hp, writeScientific_json hne]
    rfl
  · rw [if_neg hsci, if_pos (isPositional_json.mpr hsci), Layout.writePositional]
    split_ifs with hsmall hmid hz
    · simp [Numeral.unsignedText, Numeral.fractionText, Numeral.exponentText]
    · simp [Numeral.unsignedText, Numeral.fractionText, Numeral.exponentText]
    · simp [Numeral.unsignedText, Numeral.fractionText, Numeral.exponentText]
    · simp [Layout.json] at hz

end PointSelect.Json
