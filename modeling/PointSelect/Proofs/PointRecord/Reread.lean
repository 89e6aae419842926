import PointSelect.PointRecord.Json
import PointSelect.Proofs.Json.FiniteNumber

namespace PointSelect.PointRecord

open Json (Document Value)

/-- The value that is read where one was written; null stands for none. -/
def rereadValue? : Option Binary64 → Option (Option Binary64)
  | none => some none
  | some x => if x.isFinite then (Json.reread? x).map some else some none

/-- The record that is read where a record was written. -/
def reread? (r : PointRecord) : Option PointRecord := do
  return ⟨⟨r.point.path, r.point.index, ← Json.reread? r.point.lower, ← Json.reread? r.point.upper⟩,
    ← rereadValue? r.value⟩

theorem optionalNumber?_numberValue (x : Binary64) :
    optionalNumber? (Json.numberValue x) = rereadValue? (some x) := by
  rw [rereadValue?]
  cases hx : x.isFinite with
  | false =>
    rw [Json.numberValue_of_not_finite hx]
    rfl
  | true =>
    cases x with
    | nan => cases hx
    | signed negative m =>
      have hm : m.isFinite = true := hx
      rw [← Json.toBinary64?_numberValue, Json.numberValue, if_pos hm]
      rfl

theorem ofFields?_numberValue {s : String} {w : Json.Written} (h : Json.KeyReadsAs s w) (n : Int64)
    (a b : Binary64) : Point.ofFields? (.string w) (.number (Json.integerNumeral n.toInt))
      (Json.numberValue a) (Json.numberValue b) =
        (Json.reread? a).bind fun a => (Json.reread? b).map fun b => ⟨s, n, a, b⟩ := by
  have hn : (Value.number (Json.integerNumeral n.toInt)).toInt64? = some n :=
    Json.toInt64?_integerNumeral n
  have hs : (Value.string w).toText? = some s := h.1
  rw [Point.ofFields?, hs, hn, Json.toBinary64?_numberValue, Json.toBinary64?_numberValue]
  cases Json.reread? a <;> cases Json.reread? b <;> rfl

/-- The names of a record lead to its values. -/
theorem ofJson?_object {k₁ k₂ k₃ k₄ k₅ : Json.Written} (h₁ : Json.text? k₁ = some "path")
    (h₂ : Json.text? k₂ = some "n") (h₃ : Json.text? k₃ = some "xmin")
    (h₄ : Json.text? k₄ = some "xmax") (h₅ : Json.text? k₅ = some "value")
    (path index lower upper : Value) (value : Option Value) :
    ofJson? (.object ([(k₁, path), (k₂, index), (k₃, lower), (k₄, upper)] ++
      value.toList.map fun v => (k₅, v))) =
      (Point.ofFields? path index lower upper).bind fun point =>
        (value.elim (some none) optionalNumber?).map fun x => ⟨point, x⟩ := by
  have hfields : Json.fields? ["path", "n", "xmin", "xmax", "value"]
      (.object ([(k₁, path), (k₂, index), (k₃, lower), (k₄, upper)] ++
        value.toList.map fun v => (k₅, v))) =
      some [some path, some index, some lower, some upper, value] := by
    cases value with
    | none => simp [Json.fields?, h₁, h₂, h₃, h₄]
    | some v => simp [Json.fields?, h₁, h₂, h₃, h₄, h₅]
  rw [ofJson?, hfields]
  dsimp only
  cases Point.ofFields? path index lower upper with
  | none => rfl
  | some point =>
    cases value.elim (some none) optionalNumber? with
    | none => rfl
    | some x => rfl

/-- A record that is written is read as the record that its parts are read as. -/
theorem exists_means_toJson (r : PointRecord) :
    ∃ v, r.toJson.Means v ∧ ofJson? v = r.reread? := by
  obtain ⟨path, hpath⟩ := Json.exists_keyReadsAs r.point.path
  obtain ⟨k₁, h₁⟩ := Json.exists_keyReadsAs "path"
  obtain ⟨k₂, h₂⟩ := Json.exists_keyReadsAs "n"
  obtain ⟨k₃, h₃⟩ := Json.exists_keyReadsAs "xmin"
  obtain ⟨k₄, h₄⟩ := Json.exists_keyReadsAs "xmax"
  obtain ⟨k₅, h₅⟩ := Json.exists_keyReadsAs "value"
  refine ⟨.object ([(k₁, .string path), (k₂, .number (Json.integerNumeral r.point.index.toInt)),
    (k₃, Json.numberValue r.point.lower), (k₄, Json.numberValue r.point.upper)] ++
    (r.value.map Json.numberValue).toList.map fun v => (k₅, v)), ?_, ?_⟩
  · refine ⟨_, rfl, k₁, _, _, rfl, h₁, Document.means_text hpath, k₂, _, _, rfl, h₂,
      Document.means_integer _, k₃, _, _, rfl, h₃, Document.means_number _, k₄, _, _, rfl, h₄,
      Document.means_number _, ?_⟩
    cases r.value with
    | none => rfl
    | some x => exact ⟨k₅, _, [], rfl, h₅, Document.means_number x, rfl⟩
  · have hvalue : (r.value.map Json.numberValue).elim (some none) optionalNumber? =
        rereadValue? r.value := by
      cases r.value with
      | none => rfl
      | some x => exact optionalNumber?_numberValue x
    rw [ofJson?_object h₁.1 h₂.1 h₃.1 h₄.1 h₅.1, ofFields?_numberValue hpath, hvalue, reread?]
    cases Json.reread? r.point.lower <;> cases Json.reread? r.point.upper <;>
      cases rereadValue? r.value <;> rfl

/-- Records that are written are read one by one. -/
theorem exists_meansItems (records : List PointRecord) :
    ∃ vs, Document.MeansItems (records.map toJson) vs ∧
      vs.mapM ofJson? = records.mapM reread? := by
  induction records with
  | nil => exact ⟨[], rfl, rfl⟩
  | cons r records ih =>
    obtain ⟨vs, hvs, hread⟩ := ih
    obtain ⟨v, hv, hr⟩ := r.exists_means_toJson
    refine ⟨v :: vs, ⟨v, vs, rfl, hv, hvs⟩, ?_⟩
    rw [List.mapM_cons, List.mapM_cons, hr, hread]

/-- Of a written table each record is read by itself. -/
theorem readJson?_listToJson (records : List PointRecord) {tail : List Char}
    (htail : Json.Blank tail) :
    readJson? (Json.wire ((listToJson records).pretty 0) ++ tail) = records.mapM reread? := by
  obtain ⟨vs, hvs, hread⟩ := exists_meansItems records
  have hmeans : (listToJson records).Means (.array vs) := ⟨vs, rfl, hvs⟩
  rw [readJson?, (Document.readsAs_pretty hmeans 0).read?_append htail]
  exact hread

/-- The numbers of a record. -/
def numbers (r : PointRecord) : List Binary64 := r.point.lower :: r.point.upper :: r.value.toList

/-- Each number of the record is read as itself where it was written. -/
def Survives (r : PointRecord) : Prop := ∀ x ∈ r.numbers, Json.reread? x = some x

def HasFiniteEdges (r : PointRecord) : Prop :=
  r.point.lower.isFinite = true ∧ r.point.upper.isFinite = true

/-- The record has no value, or a value that is a finite number. -/
def HasFiniteValue (r : PointRecord) : Prop := ∀ x ∈ r.value, x.isFinite = true

/-- The second record is the first one with its numbers as they are read where they were written. Of
a value that is no finite number nothing is said. -/
structure ReadAs (r r' : PointRecord) : Prop where
  path : r'.point.path = r.point.path
  index : r'.point.index = r.point.index
  lower : Json.reread? r.point.lower = some r'.point.lower
  upper : Json.reread? r.point.upper = some r'.point.upper
  value : r.HasFiniteValue → Option.Rel (fun x y => Json.reread? x = some y) r.value r'.value

section

variable {r r' : PointRecord}

theorem reread?_eq_some_iff : r.reread? = some r' ↔
    r'.point.path = r.point.path ∧ r'.point.index = r.point.index ∧
    Json.reread? r.point.lower = some r'.point.lower ∧
    Json.reread? r.point.upper = some r'.point.upper ∧ rereadValue? r.value = some r'.value := by
  constructor
  · intro h
    obtain ⟨a, ha, h⟩ := Option.bind_eq_some_iff.mp h
    obtain ⟨b, hb, h⟩ := Option.bind_eq_some_iff.mp h
    obtain ⟨v, hvalue, h⟩ := Option.bind_eq_some_iff.mp h
    obtain rfl := Option.some.inj h
    exact ⟨rfl, rfl, ha, hb, hvalue⟩
  · intro h
    obtain ⟨⟨path, index, a, b⟩, value⟩ := r'
    obtain ⟨rfl, rfl, ha, hb, hvalue⟩ := h
    rw [reread?, ha, hb, hvalue]
    rfl

theorem rereadValue?_eq_some_iff (finite : r.HasFiniteValue) {value' : Option Binary64} :
    rereadValue? r.value = some value' ↔
      Option.Rel (fun x y => Json.reread? x = some y) r.value value' := by
  cases hv : r.value with
  | none =>
    rw [rereadValue?, Option.some.injEq]
    constructor
    · rintro rfl
      exact .none
    · intro h
      cases h
      rfl
  | some x =>
    rw [rereadValue?, if_pos (finite x hv), Option.map_eq_some_iff]
    constructor
    · rintro ⟨y, hy, rfl⟩
      exact .some hy
    · intro h
      cases h with
      | some hy => exact ⟨_, hy, rfl⟩

theorem readAs_of_reread? (h : r.reread? = some r') : r.ReadAs r' := by
  obtain ⟨hpath, hindex, hlower, hupper, hvalue⟩ := reread?_eq_some_iff.mp h
  exact ⟨hpath, hindex, hlower, hupper, fun finite => (rereadValue?_eq_some_iff finite).mp hvalue⟩

/-- A value never makes a record unreadable. -/
theorem isSome_rereadValue? (value : Option Binary64) : (rereadValue? value).isSome = true := by
  cases value with
  | none => rfl
  | some x =>
    rw [rereadValue?]
    split_ifs with hx
    · rw [Option.isSome_map]
      exact Json.isSome_reread?_iff.mpr hx
    · rfl

theorem isSome_reread?_iff : r.reread?.isSome = true ↔ r.HasFiniteEdges := by
  obtain ⟨value, hvalue⟩ := Option.isSome_iff_exists.mp (isSome_rereadValue? r.value)
  rw [reread?, HasFiniteEdges, ← Json.isSome_reread?_iff, ← Json.isSome_reread?_iff, hvalue]
  cases Json.reread? r.point.lower with
  | none => simp
  | some a => cases Json.reread? r.point.upper <;> simp

theorem survives_iff : r.Survives ↔ Json.reread? r.point.lower = some r.point.lower ∧
    Json.reread? r.point.upper = some r.point.upper ∧
    ∀ x ∈ r.value, Json.reread? x = some x := by
  simp only [Survives, numbers, List.forall_mem_cons, Option.mem_toList, Option.mem_def]

theorem Survives.hasFiniteValue (h : r.Survives) : r.HasFiniteValue := by
  intro x hx
  have hread : Json.reread? x = some x := (survives_iff.mp h).2.2 x hx
  exact Json.isSome_reread?_iff.mp (by rw [hread]; rfl)

theorem reread?_eq_self_iff (finite : r.HasFiniteValue) : r.reread? = some r ↔ r.Survives := by
  have hvalue : Option.Rel (fun x y => Json.reread? x = some y) r.value r.value ↔
      ∀ x ∈ r.value, Json.reread? x = some x := by
    constructor
    · intro h x hx
      rw [hx] at h
      cases h with
      | some hread => exact hread
    · intro h
      cases hv : r.value with
      | none => exact .none
      | some x => exact .some (h x hv)
  rw [reread?_eq_some_iff, rereadValue?_eq_some_iff finite, hvalue, survives_iff]
  simp only [true_and]

end

end PointSelect.PointRecord
