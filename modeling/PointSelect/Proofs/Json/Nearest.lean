import PointSelect.Proofs.Json.ShortNumber
import PointSelect.Proofs.Number.Error

namespace PointSelect.Json

open Decimal

theorem span_of_takeDigits? {cs ds rest : List Char} (h : takeDigits? cs = some (ds, rest)) :
    cs.takeWhile Char.isDigit = ds ∧ cs.dropWhile Char.isDigit = rest := by
  have hif : (if (cs.takeWhile Char.isDigit).isEmpty then none
      else some (cs.takeWhile Char.isDigit, cs.dropWhile Char.isDigit)) = some (ds, rest) := h
  split_ifs at hif
  exact Prod.mk.inj (Option.some.inj hif)

theorem IsDigits.takeSign {ds : List Char} (h : IsDigits ds) : takeSign ds = (false, ds) :=
  Binary64.takeSign_of_digits (fun c hc => .inl (h.isDigit c hc)) false

/-- Every way to write an exponent is understood where no JSON is read, too. -/
theorem SpellsExponent.readExponent? {text : List Char} {n : Numeral}
    (h : SpellsExponent text n.exponent) (digits : ∀ x ∈ n.exponent, IsDigits x.2) :
    Decimal.readExponent? text = some n.exponentValue := by
  have hvalue : n.exponentValue = n.exponent.elim 0 fun x =>
      if x.1 then -(ofDigits x.2 : Int) else ofDigits x.2 := rfl
  have hall : ∀ {ds}, IsDigits ds → ds.all Char.isDigit = true :=
    fun hds => List.all_eq_true.mpr hds.isDigit
  rw [hvalue]
  generalize n.exponent = exponent at h digits
  cases h with
  | none => rfl
  | minus he | plus he =>
    have hds := digits _ rfl
    rcases he with rfl | rfl <;>
      simp [Decimal.readExponent?, Decimal.takeSign, hds.ne_nil, hall hds]
  | bare he =>
    have hds := digits _ rfl
    rcases he with rfl | rfl <;>
      simp [Decimal.readExponent?, hds.takeSign, hds.ne_nil, hall hds]

namespace NumberToken

/-- The number nearest to what is written. -/
def nearest (t : NumberToken) : Binary64 :=
  .signed t.numeral.negative (magnitudeOf t.numeral.digits t.numeral.power)

/-- Digits end where the exponent begins. -/
theorem isDigit_head_exponent (t : NumberToken) :
    ∀ c ∈ t.exponent.head?, c.isDigit = false ∧ c ≠ '.' := by
  intro c hc
  rcases t.spells.head c hc with rfl | rfl <;> decide

theorem readUnsigned?_unsignedText (t : NumberToken) (negative : Bool) :
    readUnsigned? negative t.unsignedText =
      some ⟨negative, t.numeral.digits, t.numeral.power⟩ := by
  have hend := t.isDigit_head_exponent
  have hwhole := t.wellFormed.whole
  have hexp := t.spells.readExponent? t.wellFormed.exponent
  rw [readUnsigned?, unsignedText]
  cases hf : t.numeral.fraction with
  | none =>
    obtain ⟨ht, hd⟩ := span_of_takeDigits? (takeDigits?_append hwhole fun c hc => (hend c hc).1)
    have hpoint : ∀ r, t.exponent ≠ '.' :: r := by
      intro r hr
      exact (hend '.' (by rw [hr]; rfl)).2 rfl
    simp [Numeral.fractionText, ht, hd, hwhole.ne_nil, hexp, Numeral.digits, Numeral.power, hf]
  | some ds =>
    have hds := t.wellFormed.fraction ds hf
    have hpoint : ∀ c ∈ ('.' :: (ds ++ t.exponent)).head?, c.isDigit = false := by simp
    obtain ⟨ht, hd⟩ := span_of_takeDigits? (takeDigits?_append hwhole hpoint)
    obtain ⟨ht', hd'⟩ := span_of_takeDigits? (takeDigits?_append hds fun c hc => (hend c hc).1)
    simp [Numeral.fractionText, ht, hd, ht', hd', hwhole.ne_nil, hexp, Numeral.digits,
      Numeral.power, hf]

/-- Where plain numbers are read, a number of JSON's grammar is read as the nearest one. -/
theorem readChars?_text (t : NumberToken) : Binary64.readChars? t.text = some t.nearest := by
  have hsign : takeSign t.text = (t.numeral.negative, t.unsignedText) := by
    obtain ⟨c, cs, hw⟩ := List.exists_cons_of_ne_nil t.wellFormed.whole.ne_nil
    have hc : c.isDigit = true := t.wellFormed.whole.isDigit c (by simp [hw])
    have hminus : c ≠ '-' := ne_of_isDigit hc (by decide)
    have hplus : c ≠ '+' := ne_of_isDigit hc (by decide)
    rw [text]
    cases t.numeral.negative with
    | true => rfl
    | false => simp [unsignedText, hw, takeSign, hminus, hplus]
  rw [Binary64.readChars?, hsign]
  simp only [readUnsigned?_unsignedText, toBinary64_eq, nearest]

/-- JSON's reader takes the number for the nearest one. -/
def IsFaithful (t : NumberToken) : Prop := t.numeral.toBinary64? = some t.nearest

instance (t : NumberToken) : Decidable t.IsFaithful := inferInstanceAs (Decidable (_ = _))

/-- Zero, whole numbers of up to 64 bits, and numbers of which both the digits and the power of ten
are held exactly. -/
inductive IsRoundedOnce (t : NumberToken) : Prop where
  | zero (h : t.numeral.digits = 0)
  | whole (fraction : t.numeral.fraction = none) (exponent : t.numeral.exponent = none)
    (few : t.numeral.digits ≤ Numeral.maxSignificand)
  | short (few : t.numeral.digits ≤ 2 ^ 53) (near : t.numeral.power.natAbs ≤ 22)
    (exponent : ∀ x ∈ t.numeral.exponent, Decimal.ofDigits x.2 ≤ Numeral.maxExponent)

end NumberToken

namespace Numeral

theorem magnitude?_of_whole {n : Numeral} (fraction : n.fraction = none)
    (exponent : n.exponent = none) (few : n.digits ≤ maxSignificand) :
    n.magnitude? = some (magnitudeOf n.digits n.power) := by
  have hp : n.power = 0 := by
    rw [power, exponentValue_of_none exponent, fraction]
    rfl
  have hs := significand_eq few
  rw [fraction] at hs
  rw [magnitude?]
  simp only [hs, exponent, fraction, hp]
  simp [magnitudeOf_whole]
  rfl

theorem scale?_zero (fuel : Nat) (e : Int) : scale? .zero fuel e = some .zero := by
  cases fuel with
  | zero => rfl
  | succ fuel =>
    rw [scale?, Magnitude.zero_mul, Magnitude.zero_div]
    simp [isFinite_zero]

/-- Digits that are all zero are zero with any exponent. -/
theorem magnitude?_of_zero {n : Numeral} (h : n.digits = 0) : n.magnitude? = some .zero := by
  have hs := significand_eq (h.trans_le (Nat.zero_le _))
  have hz : Magnitude.ofNat 0 = .zero := by
    rw [Magnitude.ofNat, Nat.zero_mul, Magnitude.ofRatio_zero]
  rw [h] at hs
  rw [magnitude?]
  simp only [hs, hz, scale?_zero, ite_self]
  cases n.exponent with
  | none => rfl
  | some x =>
    simp only [ne_eq, not_true_eq_false, decide_false, Bool.false_and, Bool.false_eq_true, if_false]
    split_ifs <;> rfl

end Numeral

theorem NumberToken.isFaithful_of_isRoundedOnce {t : NumberToken} (h : t.IsRoundedOnce) :
    t.IsFaithful := by
  rw [IsFaithful, Numeral.toBinary64?, nearest]
  cases h with
  | zero h =>
    rw [Numeral.magnitude?_of_zero h, h, magnitudeOf_zero]
    rfl
  | whole fraction exponent few =>
    rw [Numeral.magnitude?_of_whole fraction exponent few]
    rfl
  | short few near exponent =>
    have hsmall : t.numeral.digits ≤ Numeral.maxSignificand := by
      rw [Numeral.maxSignificand]
      omega
    have hpoint := Numeral.magnitude?_eq_some rfl (isFinite_magnitudeOf few near) hsmall exponent
      near
    cases hf : t.numeral.fraction with
    | some ds =>
      rw [hpoint (.inl (by rw [hf]; rfl)) (Magnitude.fits_of_le few)]
      rfl
    | none =>
      cases he : t.numeral.exponent with
      | none =>
        rw [Numeral.magnitude?_of_whole hf he hsmall]
        rfl
      | some x =>
        rw [hpoint (.inr (by rw [he]; rfl)) (Magnitude.fits_of_le few)]
        rfl

end PointSelect.Json
