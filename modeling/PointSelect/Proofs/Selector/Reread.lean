import PointSelect.Selector.Json
import PointSelect.Proofs.Json.Compact
import PointSelect.Proofs.Json.FiniteNumber
import PointSelect.Proofs.Selector.Equality
import PointSelect.Proofs.Selector.Grammar

namespace PointSelect

open Json (Document Value)

namespace Interval

variable {f : Binary64 → Option Binary64} {r r' : Interval}

/-- The interval with both bounds replaced. -/
def mapBounds? (f : Binary64 → Option Binary64) (r : Interval) : Option Interval := do
  return ⟨← f r.lo, ← f r.hi⟩

theorem mapBounds?_eq_some_iff :
    r.mapBounds? f = some r' ↔ f r.lo = some r'.lo ∧ f r.hi = some r'.hi := by
  obtain ⟨lo, hi⟩ := r'
  cases ha : f r.lo with
  | none => simp [mapBounds?, ha]
  | some a =>
    cases hb : f r.hi <;> simp [mapBounds?, ha, hb]

theorem isSome_mapBounds?_iff :
    (r.mapBounds? f).isSome = true ↔ (f r.lo).isSome = true ∧ (f r.hi).isSome = true := by
  cases ha : f r.lo with
  | none => simp [mapBounds?, ha]
  | some a => cases hb : f r.hi <;> simp [mapBounds?, ha, hb]

theorem eq_of_mapBounds?_of_equal (hf : ∀ x y, f x = some y → y.equal x = true → y = x)
    (h : r.mapBounds? f = some r') (he : r'.equal r = true) : r' = r := by
  obtain ⟨hlo, hhi⟩ := mapBounds?_eq_some_iff.mp h
  rw [equal, Bool.and_eq_true] at he
  have hl := hf _ _ hlo he.1
  have hh := hf _ _ hhi he.2
  cases r'
  exact congrArg₂ mk hl hh

/-- An interval that is written is read with the bounds that its numbers are read as. -/
theorem exists_means_toJson (r : Interval) :
    ∃ v, r.toJson.Means v ∧ ofJson? v = r.mapBounds? Json.reread? := by
  obtain ⟨k₁, h₁⟩ := Json.exists_keyReadsAs "lo"
  obtain ⟨k₂, h₂⟩ := Json.exists_keyReadsAs "hi"
  refine ⟨.object [(k₁, Json.numberValue r.lo), (k₂, Json.numberValue r.hi)], ?_, ?_⟩
  · exact ⟨_, rfl, k₁, _, _, rfl, h₁, Document.means_number _, k₂, _, _, rfl, h₂,
      Document.means_number _, rfl⟩
  · have hfields : Json.fields? ["lo", "hi"] (.object [(k₁, Json.numberValue r.lo),
        (k₂, Json.numberValue r.hi)]) =
        some [some (Json.numberValue r.lo), some (Json.numberValue r.hi)] := by
      simp [Json.fields?, h₁.1, h₂.1]
    rw [ofJson?, hfields]
    simp only [Json.toBinary64?_numberValue, mapBounds?]

end Interval

namespace Target

variable {α : Type}

/-- The target with its value or the bounds of its range replaced. -/
def map? (f : α → Option α) (g : Binary64 → Option Binary64) : Target α → Option (Target α)
  | exact x => (f x).map exact
  | range r => (r.mapBounds? g).map range

theorem exists_means_toJson {value : α → Document} {value? : Value → Option α} {f : α → Option α}
    (hvalue : ∀ x, ∃ v, (value x).Means v ∧ value? v = f x) (t : Target α) :
    ∃ v, (t.toJson value).Means v ∧ ofJson? value? v = t.map? f Json.reread? := by
  cases t with
  | exact x =>
    obtain ⟨k, hk⟩ := Json.exists_keyReadsAs "Exact"
    obtain ⟨v, hv, hread⟩ := hvalue x
    refine ⟨.object [(k, v)], ⟨_, rfl, k, v, [], rfl, hk, hv, rfl⟩, ?_⟩
    simp only [ofJson?, hk.1, hread, map?]
  | range r =>
    obtain ⟨k, hk⟩ := Json.exists_keyReadsAs "Range"
    obtain ⟨v, hv, hread⟩ := r.exists_means_toJson
    refine ⟨.object [(k, v)], ⟨_, rfl, k, v, [], rfl, hk, hv, rfl⟩, ?_⟩
    simp only [ofJson?, hk.1, hread, map?]

end Target

namespace Selector

variable {s s' : Selector} {f : Binary64 → Option Binary64}

/-- The selector with its binary64 numbers replaced. -/
def mapNumbers? (f : Binary64 → Option Binary64) : Selector → Option Selector
  | unrestricted => some unrestricted
  | index t => (t.map? some f).map index
  | position t => (t.map? f f).map position

theorem isSome_mapNumbers?_iff :
    (s.mapNumbers? f).isSome = true ↔ ∀ x ∈ s.numbers, (f x).isSome = true := by
  cases s with
  | unrestricted => simp [mapNumbers?, numbers]
  | index t => cases t <;> simp [mapNumbers?, Target.map?, numbers, Interval.isSome_mapBounds?_iff]
  | position t => cases t <;> simp [mapNumbers?, Target.map?, numbers, Interval.isSome_mapBounds?_iff]

theorem mapNumbers?_eq_self_iff : s.mapNumbers? f = some s ↔ ∀ x ∈ s.numbers, f x = some x := by
  cases s with
  | unrestricted => simp [mapNumbers?, numbers]
  | index t => cases t <;> simp [mapNumbers?, Target.map?, numbers, Interval.mapBounds?_eq_some_iff]
  | position t =>
    cases t <;> simp [mapNumbers?, Target.map?, numbers, Interval.mapBounds?_eq_some_iff]

/-- A selector read as an equal one is read as itself, if that is so for its numbers. -/
theorem eq_of_mapNumbers?_of_equal (hf : ∀ x y, f x = some y → y.equal x = true → y = x)
    (h : s.mapNumbers? f = some s') (he : s'.equal s = true) : s' = s := by
  cases s with
  | unrestricted => exact (Option.some.inj h).symm
  | index t =>
    obtain ⟨t', ht, rfl⟩ := Option.map_eq_some_iff.mp h
    cases t with
    | exact n => rw [← Option.some.inj ht]
    | range r =>
      obtain ⟨r', hr, rfl⟩ := Option.map_eq_some_iff.mp ht
      rw [Interval.eq_of_mapBounds?_of_equal hf hr he]
  | position t =>
    obtain ⟨t', ht, rfl⟩ := Option.map_eq_some_iff.mp h
    cases t with
    | exact x =>
      obtain ⟨y, hy, rfl⟩ := Option.map_eq_some_iff.mp ht
      rw [hf x y hy he]
    | range r =>
      obtain ⟨r', hr, rfl⟩ := Option.map_eq_some_iff.mp ht
      rw [Interval.eq_of_mapBounds?_of_equal hf hr he]

/-- A selector that is written is read as the same selector with each number as it is read. -/
theorem readJson?_writeJson (s : Selector) :
    readJson? s.writeJson = s.mapNumbers? Json.reread? := by
  obtain ⟨v, hv, hread⟩ : ∃ v, s.toJson.Means v ∧ ofJson? v = s.mapNumbers? Json.reread? := by
    cases s with
    | unrestricted =>
      obtain ⟨w, hw⟩ := Json.exists_keyReadsAs "None"
      refine ⟨.string w, Document.means_text hw, ?_⟩
      simp [ofJson?, Value.toName?, hw.1, mapNumbers?]
    | index t =>
      obtain ⟨k, hk⟩ := Json.exists_keyReadsAs "Index"
      have hinteger : ∀ n : Int64, ∃ v, (Document.atom (writeInt n.toInt)).Means v ∧
          v.toInt64? = some n := fun n =>
        ⟨_, Document.means_integer n.toInt, Json.toInt64?_integerNumeral n⟩
      obtain ⟨v, hv, hread⟩ := t.exists_means_toJson hinteger
      refine ⟨.object [(k, v)], ⟨_, rfl, k, v, [], rfl, hk, hv, rfl⟩, ?_⟩
      simp only [ofJson?, hk.1, hread, mapNumbers?]
    | position t =>
      obtain ⟨k, hk⟩ := Json.exists_keyReadsAs "Position"
      have hnumber : ∀ x : Binary64, ∃ v, (Document.number x).Means v ∧
          v.toBinary64? = Json.reread? x := fun x =>
        ⟨_, Document.means_number x, Json.toBinary64?_numberValue x⟩
      obtain ⟨v, hv, hread⟩ := t.exists_means_toJson hnumber
      refine ⟨.object [(k, v)], ⟨_, rfl, k, v, [], rfl, hk, hv, rfl⟩, ?_⟩
      simp only [ofJson?, hk.1, hread, mapNumbers?]
  rw [readJson?, writeJson, Document.readText?_writeCompact hv]
  exact hread

theorem numbers_ofRange (k : Coordinate) (r : Interval) : (ofRange k r).numbers = [r.lo, r.hi] := by
  cases k <;> rfl

/-- A bound that is missing is an infinity in the selector. -/
theorem exists_not_finite_of_missing {k : Coordinate} {policy : IndexPolicy} {lo hi : List Char}
    (h : parseChars k policy (lo ++ ':' :: hi) = .ok s) (hcolon : ':' ∉ lo)
    (hmissing : lo = [] ∨ hi = []) : ∃ x ∈ s.numbers, x.isFinite = false := by
  rw [parseChars_double hcolon] at h
  cases ha : readBound .negInfinity lo with
  | error fault =>
    rw [ha] at h
    cases h
  | ok a =>
    cases hb : readBound .infinity hi with
    | error fault =>
      rw [ha, hb] at h
      cases h
    | ok b =>
      rw [ha, hb, ok_bind, ok_bind] at h
      obtain rfl := Except.ok.inj h
      rw [numbers_ofRange]
      rcases hmissing with rfl | rfl
      · obtain rfl := Except.ok.inj ha
        exact ⟨.negInfinity, by simp, by decide +kernel⟩
      · obtain rfl := Except.ok.inj hb
        exact ⟨.infinity, by simp, by decide +kernel⟩

/-- A selector that was read from a pattern and is written as JSON is read again if its numbers are
finite, which those of a half-open range are not. What is read asks for the same kind of target on
the same coordinate, with the same integer, and each of its numbers is the one that is read where a
number was written. It equals the selector if and only if each number is read as itself, as all short
ones are; there are none beside an exact index. -/
theorem readJson?_writeJson_of_parse {k : Coordinate} {policy : IndexPolicy} {body : String}
    (h : parse k policy body = .ok s) :
    readJson? s.writeJson = s.mapNumbers? Json.reread? ∧
    ((readJson? s.writeJson).isSome = true ↔ ∀ x ∈ s.numbers, x.isFinite = true) ∧
    (∀ lo hi, body.toList = lo ++ ':' :: hi → ':' ∉ lo → lo = [] ∨ hi = [] →
      readJson? s.writeJson = none) ∧
    ((∃ s', readJson? s.writeJson = some s' ∧ s'.equal s = true) ↔
      ∀ x ∈ s.numbers, Json.reread? x = some x) ∧
    ((∀ x ∈ s.numbers, Json.IsShortNumber x) → readJson? s.writeJson = some s) := by
  have hread := readJson?_writeJson s
  have hsome : (readJson? s.writeJson).isSome = true ↔ ∀ x ∈ s.numbers, x.isFinite = true := by
    rw [hread, isSome_mapNumbers?_iff]
    exact forall₂_congr fun x _ => Json.isSome_reread?_iff
  have hself : readJson? s.writeJson = some s ↔ ∀ x ∈ s.numbers, Json.reread? x = some x := by
    rw [hread, mapNumbers?_eq_self_iff]
  refine ⟨hread, hsome, ?_, ?_, ?_⟩
  · intro lo hi hbody hcolon hmissing
    rw [parse, hbody] at h
    obtain ⟨x, hx, hinfinite⟩ := exists_not_finite_of_missing h hcolon hmissing
    rw [← Option.not_isSome_iff_eq_none, hsome]
    intro hfinite
    rw [hfinite x hx] at hinfinite
    cases hinfinite
  · rw [← hself]
    constructor
    · rintro ⟨s', hs', he⟩
      have hsame := eq_of_mapNumbers?_of_equal (fun _ _ => Json.eq_of_reread?_of_equal)
        (hread.symm.trans hs') he
      rw [hs', hsame]
    · intro hs
      refine ⟨s, hs, equal_self_iff.mpr ?_⟩
      rintro x hx rfl
      have hnan := hself.mp hs .nan hx
      rw [Json.reread?_of_not_finite rfl] at hnan
      cases hnan
  · intro hshort
    exact hself.mpr fun x hx => Json.reread?_of_isShortNumber (hshort x hx)

/-- A range between two short bounds. -/
theorem readJson?_writeJson_of_parse_range :
    let half : Magnitude := .ofRatio oneUnits 2
    let thousand : Magnitude := .ofNat 1000
    let s : Selector := .position (.range ⟨.signed true half, .signed false thousand⟩)
    parse .position .reject "-0.5:1e3" = .ok s ∧
      s.writeJson = "\x7b\"Position\":\x7b\"Range\":\x7b\"lo\":-0.5,\"hi\":1000.0\x7d\x7d\x7d" ∧
      readJson? s.writeJson = some s := by
  intro half thousand s
  have hparse : parse .position .reject "-0.5:1e3" = .ok s := by decide +kernel
  have hhalf : Json.IsShort half :=
    .digits (by decide +kernel) (by decide +kernel) (by decide +kernel)
  have hthousand : Json.IsShort thousand :=
    .digits (by decide +kernel) (by decide +kernel) (by decide +kernel)
  have hshort : ∀ x ∈ s.numbers, Json.IsShortNumber x := by
    intro x hx
    rcases List.mem_pair.mp hx with rfl | rfl
    · exact ⟨true, half, rfl, by decide +kernel, hhalf⟩
    · exact ⟨false, thousand, rfl, by decide +kernel, hthousand⟩
  exact ⟨hparse, by decide +kernel, (readJson?_writeJson_of_parse hparse).2.2.2.2 hshort⟩

/-- A half-open range is not read from its JSON text, and of a position of 16 digits the neighbour
is read. -/
theorem readJson?_writeJson_differs :
    let halfOpen : Selector := .index (.range ⟨.ofInt 1, .infinity⟩)
    let long : Selector := .position (.exact (.ofInt 9007199254740991))
    let neighbour : Selector := .position (.exact (.ofInt 9007199254740990))
    parse .index .truncate "1:" = .ok halfOpen ∧ (∀ x ∈ halfOpen.numbers, x ≠ .nan) ∧
    halfOpen.writeJson = "\x7b\"Index\":\x7b\"Range\":\x7b\"lo\":1.0,\"hi\":null\x7d\x7d\x7d" ∧
    readJson? halfOpen.writeJson = none ∧
    parse .position .truncate "9007199254740991" = .ok long ∧ (∀ x ∈ long.numbers, x ≠ .nan) ∧
    long.writeJson = "\x7b\"Position\":\x7b\"Exact\":9007199254740991.0\x7d\x7d" ∧
    readJson? long.writeJson = some neighbour ∧ neighbour.equal long = false := by
  decide +kernel

end Selector

end PointSelect
