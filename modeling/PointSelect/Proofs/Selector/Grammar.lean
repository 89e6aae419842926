import PointSelect.Pattern.Error
import PointSelect.Proofs.Number.Rational
import PointSelect.Proofs.Selector.Rendering

namespace PointSelect

namespace Decimal

theorem colon_notMem_of_digits {cs : List Char} (h : ∀ c ∈ cs, c.isDigit = true) : ':' ∉ cs := by
  intro hm
  exact absurd (h ':' hm) (by decide)

theorem takeSign_eq (cs : List Char) :
    cs = (takeSign cs).2 ∨ ∃ c, (c = '-' ∨ c = '+') ∧ cs = c :: (takeSign cs).2 := by
  unfold takeSign
  split
  · exact .inr ⟨'-', .inl rfl, rfl⟩
  · exact .inr ⟨'+', .inr rfl, rfl⟩
  · exact .inl rfl

/-- A sign is no colon. -/
theorem mem_takeSign_of_colon {cs : List Char} (h : ':' ∈ cs) : ':' ∈ (takeSign cs).2 := by
  rcases takeSign_eq cs with he | ⟨c, hc, he⟩
  · rwa [← he]
  · rw [he] at h
    rcases List.mem_cons.mp h with rfl | hm
    · rcases hc with hc | hc <;> cases hc
    · exact hm

theorem colon_notMem_of_readExponent? {cs : List Char} {e : Int} (h : readExponent? cs = some e) :
    ':' ∉ cs := by
  cases cs with
  | nil => exact List.not_mem_nil
  | cons c cs =>
    intro hm
    simp only [readExponent?] at h
    split_ifs at h with hif
    all_goals
      have hparts : (c = 'e' ∨ c = 'E') ∧ ∀ d ∈ (takeSign cs).2, d.isDigit = true := by
        simp only [Bool.and_eq_true, Bool.or_eq_true, beq_iff_eq, List.all_eq_true] at hif
        exact ⟨hif.1.1, hif.2⟩
      rcases List.mem_cons.mp hm with hc | hc
      · rcases hparts.1 with he | he <;> rw [he] at hc <;> cases hc
      · exact colon_notMem_of_digits hparts.2 (mem_takeSign_of_colon hc)

theorem colon_notMem_of_dropWhile {cs : List Char} (h : ':' ∉ cs.dropWhile Char.isDigit) :
    ':' ∉ cs := by
  have hdigits : ':' ∉ cs.takeWhile Char.isDigit :=
    colon_notMem_of_digits fun _ hc => List.mem_takeWhile_imp hc
  rw [← List.takeWhile_append_dropWhile (p := Char.isDigit) (l := cs), List.mem_append]
  exact fun hm => hm.elim hdigits h

theorem colon_notMem_of_readUnsigned? {negative : Bool} {cs : List Char} {d : Decimal}
    (h : readUnsigned? negative cs = some d) : ':' ∉ cs := by
  apply colon_notMem_of_dropWhile
  simp only [readUnsigned?] at h
  generalize cs.dropWhile Char.isDigit = rest at h
  split_ifs at h
  obtain ⟨e, he, -⟩ := Option.map_eq_some_iff.mp h
  -- behind the digits stands a point with more digits, or the exponent
  split at he
  · intro hm
    rcases List.mem_cons.mp hm with hc | hr
    · cases hc
    · exact colon_notMem_of_dropWhile (colon_notMem_of_readExponent? he) hr
  · exact colon_notMem_of_readExponent? he

end Decimal

namespace Binary64

theorem colon_notMem_of_named? {negative : Bool} {cs : List Char} {x : Binary64}
    (h : named? negative cs = some x) : ':' ∉ cs := by
  intro hm
  have hlower : ':' ∈ cs.map Char.toLower := List.mem_map_of_mem (f := Char.toLower) hm
  have hname : ∀ name : String, ':' ∉ name.toList → String.ofList (cs.map Char.toLower) ≠ name := by
    rintro name hn rfl
    rw [String.toList_ofList] at hn
    exact hn hlower
  have hnan := hname "nan" (by decide)
  have hinf := hname "inf" (by decide)
  have hinfinity := hname "infinity" (by decide)
  simp [named?, hnan, hinf, hinfinity] at h

/-- No number is written with a colon. -/
theorem colon_notMem_of_readChars? {cs : List Char} {x : Binary64} (h : readChars? cs = some x) :
    ':' ∉ cs := by
  intro hm
  have hrest := Decimal.mem_takeSign_of_colon hm
  rw [readChars?] at h
  generalize Decimal.takeSign cs = signed at h hrest
  obtain ⟨negative, rest⟩ := signed
  simp only at h hrest
  cases hd : Decimal.readUnsigned? negative rest with
  | some d => exact Decimal.colon_notMem_of_readUnsigned? hd hrest
  | none =>
    rw [hd] at h
    exact colon_notMem_of_named? h hrest

end Binary64

/-- A fault of the selector as a whole, not of one of its numbers. -/
def SelectorFault.IsMalformedSelector (fault : SelectorFault) : Prop :=
  ∀ token, fault ≠ .malformedNumber token

namespace Selector

/-- A text that stands for a bound of a range: a number, or nothing in place of a missing one. -/
inductive IsBound (missing : Binary64) : List Char → Binary64 → Prop where
  | omitted : IsBound missing [] missing
  | literal {token : List Char} {x : Binary64} (number : Binary64.readChars? token = some x) :
    IsBound missing token x

/-- The selector of a range on a coordinate. -/
def ofRange : Coordinate → Interval → Selector
  | .index, r => .index (.range r)
  | .position, r => .position (.range r)

section

variable {missing : Binary64} {token : List Char}

theorem readNumber_of_none (h : Binary64.readChars? token = none) :
    readNumber token = .error (.malformedNumber (.ofList token)) := by
  rw [readNumber, h]

theorem readBound_of_isBound {x : Binary64} (h : IsBound missing token x) :
    readBound missing token = .ok x := by
  cases h with
  | omitted => rfl
  | literal number =>
    have hr := readNumber_eq_ok_iff.mpr number
    rw [readBound, isEmpty_eq_false_of_readNumber hr, hr]
    rfl

theorem readBound_of_not_isBound (h : ∀ x, ¬IsBound missing token x) :
    readBound missing token = .error (.malformedNumber (.ofList token)) := by
  have hne : token.isEmpty = false := by
    cases token with
    | nil => exact absurd .omitted (h missing)
    | cons c cs => rfl
  have hnone : Binary64.readChars? token = none := by
    cases hx : Binary64.readChars? token with
    | none => rfl
    | some x => exact absurd (.literal hx) (h x)
  rw [readBound, hne, readNumber_of_none hnone]
  rfl

/-- A second colon makes the upper bound no number. -/
theorem not_isBound_of_colon (h : ':' ∈ token) (x : Binary64) : ¬IsBound missing token x := by
  intro hx
  cases hx with
  | omitted => cases h
  | literal number => exact Binary64.colon_notMem_of_readChars? number h

end

section

variable {k : Coordinate} {policy : IndexPolicy} {body lo hi : List Char}

theorem parseChars_single (hne : body ≠ []) (hcolon : ':' ∉ body) :
    parseChars k policy body = readNumber body >>= fun x => match k with
      | .index => (exactIndex policy x).map fun n => .index (.exact n)
      | .position => .ok (.position (.exact x)) := by
  have hb : body.isEmpty = false := by simpa using hne
  simp only [parseChars, hb, splitRange?_of_notMem hcolon]
  cases readNumber body with
  | error fault => rfl
  | ok x =>
    cases k with
    | position => rfl
    | index => cases exactIndex policy x <;> rfl

theorem parseChars_double (hcolon : ':' ∉ lo) :
    parseChars k policy (lo ++ ':' :: hi) = readBound .negInfinity lo >>= fun a =>
      readBound .infinity hi >>= fun b => .ok (ofRange k ⟨a, b⟩) := by
  have hb : (lo ++ ':' :: hi).isEmpty = false := by simp
  simp only [parseChars, hb, splitRange?_append hcolon]
  cases readBound .negInfinity lo with
  | error fault => rfl
  | ok a =>
    cases readBound .infinity hi with
    | error fault => rfl
    | ok b => cases k <;> rfl

end

section

variable {policy : IndexPolicy} {x : Binary64}

/-- The numbers that name a bin under a policy: finite, within 64 bits without their fraction, and
without one where it is not cut off. -/
structure NamesBin (policy : IndexPolicy) (x : Binary64) : Prop where
  finite : x.isFinite = true
  range : InInt64 (wholePart x.toRat)
  whole : policy = .truncate ∨ ∃ n : Int, x.toRat = n

theorem exactIndex_of_namesBin (h : NamesBin policy x) :
    ∃ n : Int64, n.toInt = wholePart x.toRat ∧ exactIndex policy x = .ok n := by
  have hn : (Int64.ofInt (wholePart x.toRat)).toInt = wholePart x.toRat :=
    Int64.toInt_ofInt_of_le h.range.1 h.range.2
  refine ⟨_, hn, exactIndex_eq_ok_iff.mpr ⟨h.finite, ?_, ?_⟩⟩
  · rintro rfl
    rcases h.whole with hp | hw
    · cases hp
    · exact (Binary64.isWhole_iff h.finite).mpr hw
  · rw [hn, Binary64.truncate_eq_wholePart h.finite]

/-- A number that is an integer has no fraction that a policy could judge. -/
theorem exactIndex_of_intCast (policy : IndexPolicy) {x : Binary64} (hfinite : x.isFinite = true)
    {m : Int} (hx : x.toRat = m) (h : InInt64 m) :
    ∃ i : Int64, i.toInt = m ∧ exactIndex policy x = .ok i := by
  have hbin : NamesBin policy x := by
    refine ⟨hfinite, ?_, .inr ⟨m, hx⟩⟩
    rwa [hx, wholePart_intCast]
  obtain ⟨i, hi, he⟩ := exactIndex_of_namesBin hbin
  rw [hx, wholePart_intCast] at hi
  exact ⟨i, hi, he⟩

theorem namesBin_of_exactIndex {n : Int64} (h : exactIndex policy x = .ok n) :
    NamesBin policy x := by
  obtain ⟨hf, hw, hn⟩ := exactIndex_eq_ok_iff.mp h
  rw [Binary64.truncate_eq_wholePart hf] at hn
  refine ⟨hf, hn ▸ ⟨n.le_toInt, n.toInt_lt⟩, ?_⟩
  cases policy with
  | truncate => exact .inl rfl
  | reject => exact .inr ((Binary64.isWhole_iff hf).mp (hw rfl))

theorem isMalformedSelector_of_exactIndex {fault : SelectorFault}
    (h : exactIndex policy x = .error fault) : fault.IsMalformedSelector := by
  rintro token rfl
  unfold exactIndex at h
  split_ifs at h
  · cases h
  · cases h
  · split at h <;> cases h

theorem exactIndex_of_not_namesBin (h : ¬NamesBin policy x) :
    ∃ fault : SelectorFault, fault.IsMalformedSelector ∧ exactIndex policy x = .error fault := by
  cases he : exactIndex policy x with
  | ok n => exact absurd (namesBin_of_exactIndex he) h
  | error fault => exact ⟨fault, isMalformedSelector_of_exactIndex he, rfl⟩

end

/-- One number behind the marker is a position, or the index that it names. -/
theorem parse_number {token : String} {x : Binary64} (h : Binary64.read? token = some x)
    (k : Coordinate) (policy : IndexPolicy) :
    parse k policy token = match k with
      | .index => (exactIndex policy x).map fun n => .index (.exact n)
      | .position => .ok (.position (.exact x)) := by
  have hread : readNumber token.toList = .ok x := readNumber_eq_ok_iff.mpr h
  have hcolon : ':' ∉ token.toList := Binary64.colon_notMem_of_readChars? h
  have hne : token.toList ≠ [] := by
    intro hnil
    rw [hnil] at hread
    cases hread
  rw [parse, parseChars_single hne hcolon, hread, ok_bind]

/-- Two numbers around a colon are the bounds of a range. -/
theorem parse_bounds {lower upper : String} {a b : Binary64}
    (ha : Binary64.read? lower = some a) (hb : Binary64.read? upper = some b)
    (k : Coordinate) (policy : IndexPolicy) :
    parse k policy (lower ++ ":" ++ upper) = .ok (ofRange k ⟨a, b⟩) := by
  have hcolon : ':' ∉ lower.toList := Binary64.colon_notMem_of_readChars? ha
  have htext : (lower ++ ":" ++ upper).toList = lower.toList ++ ':' :: upper.toList := by simp
  rw [parse, htext, parseChars_double hcolon, readBound_of_isBound (.literal ha), ok_bind,
    readBound_of_isBound (.literal hb), ok_bind]

/-- What follows a marker is read by this grammar and no other: a number, or a first colon between
two bounds that may each be missing. Every number is a position. One that names a bin is its index,
cut toward zero, and no other number is an index. Of two texts that are no bounds the left one is
reported, and there is no range with a second colon. -/
theorem parse_grammar (label : String) (k : Coordinate) (policy : IndexPolicy) (body : String) :
    let outcome := (parse k policy body).mapError fun fault =>
      (⟨label, .selector fault⟩ : PatternError)
    let fails (fault : SelectorFault) : Prop := outcome = .error ⟨label, .selector fault⟩
    (body = "" → fails (.nothingFollows k)) ∧
    (body ≠ "" → ':' ∉ body.toList →
      (Binary64.read? body = none → fails (.malformedNumber body)) ∧
      ∀ x, Binary64.read? body = some x →
        (k = .position → outcome = .ok (.position (.exact x))) ∧
        (k = .index →
          (NamesBin policy x → ∃ n : Int64, n.toInt = wholePart x.toRat ∧
            outcome = .ok (.index (.exact n))) ∧
          (¬NamesBin policy x → ∃ fault, fails fault ∧ fault.IsMalformedSelector))) ∧
    ∀ lo hi, body.toList = lo ++ ':' :: hi → ':' ∉ lo →
      (∀ a b, IsBound .negInfinity lo a → IsBound .infinity hi b →
        outcome = .ok (ofRange k ⟨a, b⟩)) ∧
      ((∀ a, ¬IsBound .negInfinity lo a) → fails (.malformedNumber (.ofList lo))) ∧
      (∀ a, IsBound .negInfinity lo a → (∀ b, ¬IsBound .infinity hi b) →
        fails (.malformedNumber (.ofList hi))) ∧
      (':' ∈ hi → ∃ token, fails (.malformedNumber token)) := by
  intro outcome fails
  refine ⟨?_, ?_, ?_⟩
  · rintro rfl
    rfl
  · intro hne hcolon
    have hchars : body.toList ≠ [] := by simpa using hne
    have hparse : parse k policy body = parseChars k policy body.toList := rfl
    rw [parseChars_single hchars hcolon] at hparse
    refine ⟨?_, ?_⟩
    · intro hnone
      simp only [fails, outcome, hparse, readNumber_of_none hnone, String.ofList_toList]
      rfl
    · intro x hx
      have hread : readNumber body.toList = .ok x := readNumber_eq_ok_iff.mpr hx
      refine ⟨?_, ?_⟩
      · rintro rfl
        simp only [outcome, hparse, hread]
        rfl
      · rintro rfl
        refine ⟨?_, ?_⟩
        · intro hbin
          obtain ⟨n, hn, he⟩ := exactIndex_of_namesBin hbin
          refine ⟨n, hn, ?_⟩
          simp only [outcome, hparse, hread, ok_bind, he]
          rfl
        · intro hbin
          obtain ⟨fault, hf, he⟩ := exactIndex_of_not_namesBin hbin
          refine ⟨fault, ?_, hf⟩
          simp only [fails, outcome, hparse, hread, ok_bind, he]
          rfl
  · intro lo hi hbody hcolon
    have hparse : parse k policy body = parseChars k policy (lo ++ ':' :: hi) := by
      rw [parse, hbody]
    rw [parseChars_double hcolon] at hparse
    have hlower : (∀ a, ¬IsBound .negInfinity lo a) → fails (.malformedNumber (.ofList lo)) := by
      intro hlo
      simp only [fails, outcome, hparse, readBound_of_not_isBound hlo]
      rfl
    have hupper : ∀ a, IsBound .negInfinity lo a → (∀ b, ¬IsBound .infinity hi b) →
        fails (.malformedNumber (.ofList hi)) := by
      intro a ha hhi
      simp only [fails, outcome, hparse, readBound_of_isBound ha, ok_bind,
        readBound_of_not_isBound hhi]
      rfl
    refine ⟨?_, hlower, hupper, ?_⟩
    · intro a b ha hb
      simp only [outcome, hparse, readBound_of_isBound ha, readBound_of_isBound hb, ok_bind]
      rfl
    · intro hsecond
      by_cases hlo : ∃ a, IsBound .negInfinity lo a
      · obtain ⟨a, ha⟩ := hlo
        exact ⟨_, hupper a ha (not_isBound_of_colon hsecond)⟩
      · exact ⟨_, hlower (not_exists.mp hlo)⟩

example : parse .index .reject "1:2:3" = .error (.malformedNumber "2:3") := by decide

end Selector

end PointSelect
