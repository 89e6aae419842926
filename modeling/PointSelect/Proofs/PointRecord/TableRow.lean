import PointSelect.PointRecord.Csv
import PointSelect.PointRecord.Json
import PointSelect.Proofs.Csv.Grammar
import PointSelect.Proofs.Json.Nearest

namespace PointSelect

section

variable {α β : Type} [DecidableEq α] {R : α → β → Prop} {keys : List α} {vs : List β}

theorem filter_zip_eq_nil {name : α} (hm : name ∉ keys) (vs : List β) :
    (keys.zip vs).filter (·.1 = name) = [] := by
  rw [List.filter_eq_nil_iff]
  rintro ⟨k, w⟩ hk
  have hne : k ≠ name := fun hk' => hm (hk' ▸ (List.of_mem_zip hk).1)
  simpa using hne

/-- Under different names each value is found by its own, wherever it stands. -/
theorem exists_filter_zip (h : List.Forall₂ R keys vs) (distinct : keys.Nodup) {name : α}
    (hm : name ∈ keys) :
    ∃ v, R name v ∧ (keys.zip vs).filter (·.1 = name) = [(name, v)] := by
  induction h with
  | nil => cases hm
  | @cons key v keys vs hv hvs ih =>
    obtain ⟨hkey, distinct⟩ := List.nodup_cons.mp distinct
    rw [List.zip_cons_cons]
    by_cases he : key = name
    · subst he
      exact ⟨v, hv, by simp [filter_zip_eq_nil hkey vs]⟩
    · obtain ⟨w, hw, hfilter⟩ := ih distinct ((List.mem_cons.mp hm).resolve_left (Ne.symm he))
      exact ⟨w, hw, by simp [he, hfilter]⟩

end

/-- A row of a point table, its numbers as they are written. -/
structure TableRow where
  path : String
  index : Int64
  lower : Json.NumberToken
  upper : Json.NumberToken
  value : Option Json.NumberToken

namespace TableRow

/-- The names of the fields. -/
def names : List String := ["path", "n", "xmin", "xmax", "value"]

def numbers (row : TableRow) : List Json.NumberToken := row.lower :: row.upper :: row.value.toList

/-- The record with the numbers nearest to those that are written. -/
def nearest (row : TableRow) : PointRecord :=
  ⟨⟨row.path, row.index, row.lower.nearest, row.upper.nearest⟩, row.value.map (·.nearest)⟩

/-- The record with the numbers that JSON's reader takes for those that are written. -/
def collected? (row : TableRow) : Option PointRecord := do
  return ⟨⟨row.path, row.index, ← row.lower.numeral.toBinary64?, ← row.upper.numeral.toBinary64?⟩,
    ← row.value.elim (some none) fun t => t.numeral.toBinary64?.map some⟩

/-- The record of a row as it is read from JSON. -/
structure CollectedAs (row : TableRow) (r : PointRecord) : Prop where
  path : r.point.path = row.path
  index : r.point.index = row.index
  lower : row.lower.numeral.toBinary64? = some r.point.lower
  upper : row.upper.numeral.toBinary64? = some r.point.upper
  value : Option.Rel (fun t x => t.numeral.toBinary64? = some x) row.value r.value

section

variable {row : TableRow} {r : PointRecord}

theorem collected?_eq_some_iff : row.collected? = some r ↔ row.CollectedAs r := by
  obtain ⟨path, index, lower, upper, value⟩ := row
  constructor
  · intro h
    obtain ⟨a, ha, h⟩ := Option.bind_eq_some_iff.mp h
    obtain ⟨b, hb, h⟩ := Option.bind_eq_some_iff.mp h
    obtain ⟨v, hv, h⟩ := Option.bind_eq_some_iff.mp h
    obtain rfl := Option.some.inj h
    refine ⟨rfl, rfl, ha, hb, ?_⟩
    cases value with
    | none =>
      obtain rfl := Option.some.inj hv
      exact .none
    | some t =>
      obtain ⟨x, hx, rfl⟩ := Option.map_eq_some_iff.mp hv
      exact .some hx
  · rintro ⟨rfl, rfl, ha, hb, hv⟩
    obtain ⟨⟨path, index, a, b⟩, x⟩ := r
    dsimp only at ha hb hv
    rw [collected?]
    dsimp only
    rw [ha, hb]
    cases hv with
    | none => rfl
    | some hx =>
      rw [Option.elim_some, hx]
      rfl

theorem collected?_eq_nearest_iff :
    row.collected? = some row.nearest ↔ ∀ t ∈ row.numbers, t.IsFaithful := by
  rw [collected?_eq_some_iff]
  constructor
  · rintro ⟨-, -, hlower, hupper, hvalue⟩ t ht
    rcases List.mem_cons.mp ht with rfl | ht
    · exact hlower
    · rcases List.mem_cons.mp ht with rfl | ht
      · exact hupper
      · have hv : row.value = some t := by simpa using ht
        rw [nearest, hv] at hvalue
        cases hvalue with
        | some h => exact h
  · intro h
    refine ⟨rfl, rfl, h _ (by simp [numbers]), h _ (by simp [numbers]), ?_⟩
    rw [nearest]
    cases hv : row.value with
    | none => exact .none
    | some t => exact .some (h t (by simp [numbers, hv]))

/-- A row is read from JSON unless one of its numbers is too large there. -/
theorem isSome_collected?_iff : row.collected?.isSome = true ↔
    ∀ t ∈ row.numbers, t.numeral.toBinary64?.isSome = true := by
  have hvalue : (row.value.elim (some none) fun t => t.numeral.toBinary64?.map some).isSome = true ↔
      ∀ t ∈ row.value, t.numeral.toBinary64?.isSome = true := by
    cases row.value <;> simp
  have hnumbers : (∀ t ∈ row.numbers, t.numeral.toBinary64?.isSome = true) ↔
      row.lower.numeral.toBinary64?.isSome = true ∧ row.upper.numeral.toBinary64?.isSome = true ∧
        ∀ t ∈ row.value, t.numeral.toBinary64?.isSome = true := by
    simp [numbers]
  rw [hnumbers, ← hvalue, collected?]
  cases row.lower.numeral.toBinary64? with
  | none => simp
  | some a =>
    cases row.upper.numeral.toBinary64? with
    | none => simp
    | some b =>
      cases row.value.elim (some none) fun t => t.numeral.toBinary64?.map some <;> simp

end

end TableRow

end PointSelect
