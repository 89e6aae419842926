import PointSelect.Selector.Parser
import Mathlib.Control.Monad.Basic
import Mathlib.Tactic.SplitIfs

namespace PointSelect

theorem toInt64?_eq_some_iff {n : Int} {i : Int64} : toInt64? n = some i ↔ i.toInt = n := by
  unfold toInt64?
  constructor
  · intro h
    split_ifs at h with hn
    obtain rfl := Option.some.inj h
    exact Int64.toInt_ofInt_of_le hn.1 hn.2
  · rintro rfl
    have hn : InInt64 i.toInt := ⟨i.le_toInt, i.toInt_lt⟩
    rw [if_pos hn, Int64.ofInt_toInt]

namespace Selector

theorem readNumber_eq_ok_iff {token : List Char} {x : Binary64} :
    readNumber token = .ok x ↔ Binary64.readChars? token = some x := by
  unfold readNumber
  cases Binary64.readChars? token <;> simp

theorem exactIndex_eq_ok_iff {policy : IndexPolicy} {x : Binary64} {n : Int64} :
    exactIndex policy x = .ok n ↔
      x.isFinite = true ∧ (policy = .reject → x.isWhole = true) ∧ n.toInt = x.truncate := by
  unfold exactIndex
  cases hf : x.isFinite with
  | false => simp
  | true =>
    by_cases hp : policy = .reject ∧ x.isWhole = false
    · simp [hp]
    · have hw : policy = .reject → x.isWhole = true := by
        intro h
        simpa [h] using hp
      have hc : (policy = .reject && !x.isWhole) = false := by
        simpa using hw
      have ht := @toInt64?_eq_some_iff x.truncate n
      cases hi : toInt64? x.truncate with
      | none =>
        rw [hi] at ht
        have hn : n.toInt ≠ x.truncate := by simpa using ht
        simp [hc, hn]
      | some m =>
        rw [hi] at ht
        have hn : m = n ↔ n.toInt = x.truncate := by simpa using ht
        simp [hc, hn, and_iff_right hw]

/-- What a text after a marker means, once it means anything. -/
inductive Denotes (policy : IndexPolicy) : Coordinate → List Char → Selector → Prop where
  | indexExact {body : List Char} {x : Binary64} {n : Int64} (single : splitRange? body = none)
    (number : readNumber body = .ok x) (whole : exactIndex policy x = .ok n) :
    Denotes policy .index body (.index (.exact n))
  | positionExact {body : List Char} {x : Binary64} (single : splitRange? body = none)
    (number : readNumber body = .ok x) : Denotes policy .position body (.position (.exact x))
  | indexRange {body lo hi : List Char} {r : Interval} (double : splitRange? body = some (lo, hi))
    (lower : readBound .negInfinity lo = .ok r.lo) (upper : readBound .infinity hi = .ok r.hi) :
    Denotes policy .index body (.index (.range r))
  | positionRange {body lo hi : List Char} {r : Interval}
    (double : splitRange? body = some (lo, hi)) (lower : readBound .negInfinity lo = .ok r.lo)
    (upper : readBound .infinity hi = .ok r.hi) :
    Denotes policy .position body (.position (.range r))

section

variable {ε α β : Type}

theorem ok_bind (a : α) (f : α → Except ε β) : (Except.ok a >>= f) = f a := rfl

theorem error_bind (e : ε) (f : α → Except ε β) : (Except.error e >>= f) = .error e := rfl

end

theorem isEmpty_eq_false_of_readNumber {body : List Char} {x : Binary64}
    (h : readNumber body = .ok x) : body.isEmpty = false := by
  cases body with
  | nil => cases h
  | cons c cs => rfl

theorem isEmpty_eq_false_of_splitRange? {body lo hi : List Char}
    (h : splitRange? body = some (lo, hi)) : body.isEmpty = false := by
  cases body with
  | nil => cases h
  | cons c cs => rfl

theorem Denotes.parseChars_eq {k : Coordinate} {policy : IndexPolicy} {body : List Char}
    {s : Selector} (h : Denotes policy k body s) : parseChars k policy body = .ok s := by
  cases h with
  | indexExact single number whole =>
    simp [parseChars, isEmpty_eq_false_of_readNumber number, single, number, whole, ok_bind]
  | positionExact single number =>
    simp [parseChars, isEmpty_eq_false_of_readNumber number, single, number]
  | indexRange double lower upper =>
    simp [parseChars, isEmpty_eq_false_of_splitRange? double, double, lower, upper, ok_bind]
  | positionRange double lower upper =>
    simp [parseChars, isEmpty_eq_false_of_splitRange? double, double, lower, upper, ok_bind]

theorem denotes_of_parseChars {k : Coordinate} {policy : IndexPolicy} {body : List Char}
    {s : Selector} (h : parseChars k policy body = .ok s) : Denotes policy k body s := by
  cases hb : body.isEmpty with
  | true => simp [parseChars, hb] at h
  | false =>
    cases hs : splitRange? body with
    | none =>
      cases hn : readNumber body with
      | error fault => simp [parseChars, hb, hs, hn, error_bind] at h
      | ok x =>
        cases k with
        | index =>
          cases he : exactIndex policy x with
          | error fault => simp [parseChars, hb, hs, hn, he, ok_bind] at h
          | ok n =>
            have hv : Selector.index (.exact n) = s := by
              simpa [parseChars, hb, hs, hn, he, ok_bind] using h
            rw [← hv]
            exact .indexExact hs hn he
        | position =>
          have hv : Selector.position (.exact x) = s := by
            simpa [parseChars, hb, hs, hn, ok_bind, error_bind] using h
          rw [← hv]
          exact .positionExact hs hn
    | some bounds =>
      obtain ⟨lo, hi⟩ := bounds
      cases hl : readBound .negInfinity lo with
      | error fault => simp [parseChars, hb, hs, hl, error_bind] at h
      | ok a =>
        cases hu : readBound .infinity hi with
        | error fault => simp [parseChars, hb, hs, hl, hu, ok_bind, error_bind] at h
        | ok b =>
          cases k with
          | index =>
            have hv : Selector.index (.range ⟨a, b⟩) = s := by
              simpa [parseChars, hb, hs, hl, hu, ok_bind] using h
            rw [← hv]
            exact .indexRange hs hl hu
          | position =>
            have hv : Selector.position (.range ⟨a, b⟩) = s := by
              simpa [parseChars, hb, hs, hl, hu, ok_bind] using h
            rw [← hv]
            exact .positionRange hs hl hu

theorem parseChars_eq_ok_iff {k : Coordinate} {policy : IndexPolicy} {body : List Char}
    {s : Selector} : parseChars k policy body = .ok s ↔ Denotes policy k body s :=
  ⟨denotes_of_parseChars, Denotes.parseChars_eq⟩

end Selector

end PointSelect
