import PointSelect.Proofs.PointRecord.TableRow

namespace PointSelect

namespace Json

/-- A text in quotes, in any of the ways to write it. -/
def IsLiteral (cs : List Char) (s : String) : Prop :=
  ∃ body, Spells body s.toList ∧ cs = '"' :: (body ++ ['"'])

theorem IsLiteral.exists_readString? {cs : List Char} {s : String} (h : IsLiteral cs s) :
    ∃ w body, text? w = some s ∧ wire cs = '"' :: body ∧
      ∀ rest, readString? (body ++ rest) = some (w, rest) := by
  obtain ⟨body, hbody, rfl⟩ := h
  obtain ⟨w, hw, hread⟩ := hbody.exists_readString?
  have hquote : ∀ cs, wire ('"' :: cs) = '"' :: wire cs := wire_cons_ascii (by decide)
  refine ⟨w, wire body ++ ['"'], ?_, ?_, fun rest => ?_⟩
  · rw [text?, hw]
    exact Text.Utf8.decodeString?_encodeString s
  · rw [hquote, wire_append, hquote]
    rfl
  · simpa using hread rest

theorem Blank.wire {pad : List Char} (h : Blank pad) : wire pad = pad := by
  apply wire_eq_self
  intro c hc
  rcases h.mem hc with rfl | rfl | rfl | rfl <;> decide

/-- Parts between two brackets; if there are none, blanks may stand there. -/
def Enclosed {α : Type} (left right : Char) (P : List Char → α → Prop) (cs : List Char)
    (xs : List α) : Prop :=
  ∃ pad parts, Blank pad ∧ List.Forall₂ (Padded P) parts xs ∧
    cs = left :: (pad ++ (Document.joinWith [','] parts ++ [right]))

section

variable {α β : Type} {P : List Char → α → Prop} {Q : List Char → β → Prop} {R : α → β → Prop}

theorem Padded.exists_wire {cs : List Char} {x : α} (hp : Padded P cs x)
    (h : ∀ cs x, P cs x → ∃ y, Q (wire cs) y ∧ R x y) : ∃ y, Padded Q (wire cs) y ∧ R x y := by
  obtain ⟨before, part, after, hbefore, hpart, hafter, rfl⟩ := hp
  obtain ⟨y, hy, hr⟩ := h part x hpart
  refine ⟨y, ⟨before, wire part, after, hbefore, hy, hafter, ?_⟩, hr⟩
  rw [wire_append, wire_append, hbefore.wire, hafter.wire]

/-- What is read of the octets of enclosed parts is what is read of each part. -/
theorem Enclosed.exists_wire {left right : Char} {cs : List Char} {xs : List α}
    (he : Enclosed left right P cs xs) (hl : left.toNat < 0x80) (hr : right.toNat < 0x80)
    (h : ∀ cs x, P cs x → ∃ y, Q (wire cs) y ∧ R x y) :
    ∃ ys, Enclosed left right Q (wire cs) ys ∧ List.Forall₂ R xs ys := by
  obtain ⟨pad, parts, hpad, hparts, rfl⟩ := he
  have hys : ∃ ys, List.Forall₂ (Padded Q) (parts.map wire) ys ∧ List.Forall₂ R xs ys := by
    clear hpad
    induction hparts with
    | nil => exact ⟨[], .nil, .nil⟩
    | cons hp _ ih =>
      obtain ⟨y, hy, hr⟩ := hp.exists_wire h
      obtain ⟨ys, hys, hrs⟩ := ih
      exact ⟨y :: ys, .cons hy hys, .cons hr hrs⟩
  obtain ⟨ys, hys, hrs⟩ := hys
  have hcomma : wire [','] = [','] := wire_ascii (by decide)
  refine ⟨ys, ⟨pad, parts.map wire, hpad, hys, ?_⟩, hrs⟩
  rw [wire_cons_ascii hl, wire_append, hpad.wire, wire_append, Document.wire_joinWith, hcomma,
    wire_ascii hr]

end

end Json

namespace TableRow

open Json (Value Blank)

/-- The ways to write the value under a name. An absent one may be null. -/
def SpellsValue (row : TableRow) (cs : List Char) (name : String) : Prop :=
  match name with
  | "path" => Json.IsLiteral cs row.path
  | "n" => cs = writeInt row.index.toInt
  | "xmin" => cs = row.lower.text
  | "xmax" => cs = row.upper.text
  | "value" => cs = row.value.elim "null".toList (·.text)
  | _ => False

/-- The ways to write a member: its name, a colon and its value. -/
def SpellsMember (row : TableRow) (cs : List Char) (name : String) : Prop :=
  ∃ key gap gap' value, cs = key ++ (gap ++ ':' :: (gap' ++ value)) ∧ Json.IsLiteral key name ∧
    Blank gap ∧ Blank gap' ∧ row.SpellsValue value name

/-- The ways to write a row as an object: with its members in any order, of which an absent value
may be left out. -/
def SpellsObject (cs : List Char) (row : TableRow) : Prop :=
  ∃ keys : List String, (keys.Perm names ∨ row.value = none ∧ keys.Perm names.dropLast) ∧
    Json.Enclosed '\x7b' '\x7d' row.SpellsMember cs keys

/-- The ways to write rows as a JSON text. -/
def SpellsJson (cs : List Char) (rows : List TableRow) : Prop :=
  Json.Padded (Json.Enclosed '[' ']' SpellsObject) cs rows

/-- What the value under a name is understood as. -/
def Means (row : TableRow) (name : String) (v : Value) : Prop :=
  match name with
  | "path" => v.toText? = some row.path
  | "n" => v.toInt64? = some row.index
  | "xmin" => v.toBinary64? = row.lower.numeral.toBinary64?
  | "xmax" => v.toBinary64? = row.upper.numeral.toBinary64?
  | "value" => PointRecord.optionalNumber? v =
      row.value.elim (some none) fun t => t.numeral.toBinary64?.map some
  | _ => False

/-- The value under a name, an absent one as null. -/
def valueText (row : TableRow) (name : String) : List Char :=
  match name with
  | "path" => Json.quote row.path
  | "n" => writeInt row.index.toInt
  | "xmin" => row.lower.text
  | "xmax" => row.upper.text
  | _ => row.value.elim "null".toList (·.text)

def memberText (row : TableRow) (name : String) : List Char :=
  Json.quote name ++ ':' :: row.valueText name

def objectText (row : TableRow) : List Char :=
  '\x7b' :: (Json.Document.joinWith [','] (names.map row.memberText) ++ ['\x7d'])

/-- Rows as JSON without blanks. -/
def jsonText (rows : List TableRow) : List Char :=
  '[' :: (Json.Document.joinWith [','] (rows.map objectText) ++ [']'])

theorem isLiteral_quote (s : String) : Json.IsLiteral (Json.quote s) s :=
  ⟨_, Json.spells_escaped s.toList, rfl⟩

theorem spellsMember_memberText (row : TableRow) {name : String} (h : name ∈ names) :
    row.SpellsMember (row.memberText name) name := by
  refine ⟨Json.quote name, [], [], row.valueText name, rfl, isLiteral_quote name, rfl, rfl, ?_⟩
  simp only [names, List.mem_cons, List.not_mem_nil, or_false] at h
  rcases h with rfl | rfl | rfl | rfl | rfl
  · exact isLiteral_quote row.path
  · rfl
  · rfl
  · rfl
  · rfl

theorem enclosed_map {α : Type} {left right : Char} {P : List Char → α → Prop}
    {write : α → List Char} {xs : List α} (h : ∀ x ∈ xs, P (write x) x) :
    Json.Enclosed left right P
      (left :: (Json.Document.joinWith [','] (xs.map write) ++ [right])) xs := by
  refine ⟨[], xs.map write, rfl, ?_, rfl⟩
  rw [List.forall₂_map_left_iff, List.forall₂_same]
  exact fun x hx => ⟨[], write x, [], rfl, h x hx, rfl, by simp⟩

/-- All rows can be written as JSON. -/
theorem spellsJson_jsonText (rows : List TableRow) : SpellsJson (jsonText rows) rows := by
  have hobject : ∀ row ∈ rows, SpellsObject row.objectText row := fun row _ =>
    ⟨names, .inl (.refl _), enclosed_map fun _ => row.spellsMember_memberText⟩
  exact ⟨[], jsonText rows, [], rfl, enclosed_map hobject, rfl, by simp⟩

theorem readsAs_wire_text (t : Json.NumberToken) :
    Json.ReadsAs (Json.wire t.text) (.number t.numeral) := by
  rw [Json.wire_eq_self fun _ => Json.NumberToken.ascii]
  exact t.readsAs

section

variable {row : TableRow} {cs : List Char} {name : String}

theorem SpellsValue.exists_means (h : row.SpellsValue cs name) :
    ∃ v, Json.ReadsAs (Json.wire cs) v ∧ row.Means name v := by
  unfold SpellsValue at h
  split at h
  · obtain ⟨w, body, hw, hwire, hread⟩ := h.exists_readString?
    rw [hwire]
    exact ⟨.string w, Json.readsAs_string hread, hw⟩
  · subst h
    exact ⟨_, Json.Document.means_integer _, Json.toInt64?_integerNumeral _⟩
  · subst h
    exact ⟨_, readsAs_wire_text _, rfl⟩
  · subst h
    exact ⟨_, readsAs_wire_text _, rfl⟩
  · cases hv : row.value with
    | none =>
      have hnull : Json.wire "null".toList = "null".toList := Json.wire_eq_self (by simp)
      rw [hv, Option.elim_none] at h
      rw [h, hnull]
      exact ⟨.null, Json.readsAs_null, by simp [Means, hv, PointRecord.optionalNumber?]⟩
    | some t =>
      rw [hv, Option.elim_some] at h
      rw [h]
      exact ⟨_, readsAs_wire_text t, by simp [Means, hv, PointRecord.optionalNumber?,
        Value.toBinary64?]⟩
  · cases h

theorem SpellsMember.exists_means (h : row.SpellsMember cs name) :
    ∃ m, Json.NamedReadsAs (Json.wire cs) m ∧
      (Json.text? m.1 = some name ∧ row.Means name m.2) := by
  obtain ⟨key, gap, gap', value, rfl, hkey, hgap, hgap', hvalue⟩ := h
  obtain ⟨w, body, hw, hwire, hread⟩ := hkey.exists_readString?
  obtain ⟨v, hv, hmeans⟩ := hvalue.exists_means
  have hcolon : ∀ cs, Json.wire (':' :: cs) = ':' :: Json.wire cs :=
    Json.wire_cons_ascii (by decide)
  refine ⟨(w, v), ⟨body, gap, gap', Json.wire value, ?_, hread, hgap, hgap', hv⟩, hw, hmeans⟩
  rw [Json.wire_append, hwire, Json.wire_append, hgap.wire, hcolon, Json.wire_append, hgap'.wire]
  rfl

end

section

variable {row : TableRow} {keys : List String} {ms : List (Json.Written × Value)}
  (h : List.Forall₂ (fun name m => Json.text? m.1 = some name ∧ row.Means name m.2) keys ms)
include h

theorem mapM_members : (ms.mapM fun (k, v) => (Json.text? k).map fun k => (k, v)) =
    some (keys.zip (ms.map (·.2))) := by
  induction h with
  | nil => rfl
  | @cons name m keys ms hm _ ih =>
    obtain ⟨k, v⟩ := m
    have hk : Json.text? k = some name := hm.1
    simp only [List.mapM_cons, hk, ih]
    rfl

theorem forall₂_means : List.Forall₂ row.Means keys (ms.map (·.2)) := by
  rw [List.forall₂_map_right_iff]
  exact h.imp fun _ _ hm => hm.2

/-- The members of a row are found in any order. -/
theorem ofJson?_members (distinct : keys.Nodup) (known : ∀ name ∈ names.dropLast, name ∈ keys)
    (present : "value" ∈ keys ∨ row.value = none) :
    PointRecord.ofJson? (.object ms) = row.collected? := by
  have hmeans := forall₂_means h
  obtain ⟨path, hpath, h₁⟩ := exists_filter_zip hmeans distinct (known "path" (by decide))
  obtain ⟨index, hindex, h₂⟩ := exists_filter_zip hmeans distinct (known "n" (by decide))
  obtain ⟨lower, hlower, h₃⟩ := exists_filter_zip hmeans distinct (known "xmin" (by decide))
  obtain ⟨upper, hupper, h₄⟩ := exists_filter_zip hmeans distinct (known "xmax" (by decide))
  obtain ⟨value, hvalue, hfields⟩ : ∃ value : Option Value,
      value.elim (some none) PointRecord.optionalNumber? =
        (row.value.elim (some none) fun t => t.numeral.toBinary64?.map some) ∧
      Json.fields? names (.object ms) =
        some [some path, some index, some lower, some upper, value] := by
    by_cases hm : "value" ∈ keys
    · obtain ⟨value, hvalue, h₅⟩ := exists_filter_zip hmeans distinct hm
      refine ⟨some value, hvalue, ?_⟩
      rw [Json.fields?, mapM_members h]
      simp [names, h₁, h₂, h₃, h₄, h₅]
    · have h₅ := filter_zip_eq_nil hm (ms.map (·.2))
      refine ⟨none, by simp [present.resolve_left hm], ?_⟩
      rw [Json.fields?, mapM_members h]
      simp [names, h₁, h₂, h₃, h₄, h₅]
  have hpath : path.toText? = some row.path := hpath
  have hindex : index.toInt64? = some row.index := hindex
  have hlower : lower.toBinary64? = row.lower.numeral.toBinary64? := hlower
  have hupper : upper.toBinary64? = row.upper.numeral.toBinary64? := hupper
  rw [PointRecord.ofJson?, ← names, hfields]
  simp only [Point.ofFields?, hpath, hindex, hlower, hupper, hvalue, collected?]
  cases row.lower.numeral.toBinary64? <;> cases row.upper.numeral.toBinary64? <;> rfl

end

theorem SpellsObject.exists_readsAs {cs : List Char} {row : TableRow} (h : SpellsObject cs row) :
    ∃ v, Json.ReadsAs (Json.wire cs) v ∧ PointRecord.ofJson? v = row.collected? := by
  obtain ⟨keys, hkeys, hmembers⟩ := h
  obtain ⟨ms, ⟨pad, parts, hpad, hparts, hwire⟩, hms⟩ := hmembers.exists_wire (by decide)
    (by decide) fun cs name h => h.exists_means
  refine ⟨.object ms, hwire ▸ Json.readsAs_members hpad hparts, ?_⟩
  rcases hkeys with perm | ⟨hnone, perm⟩
  · refine ofJson?_members hms (perm.nodup_iff.mpr (by decide)) ?_ (.inl ?_)
    · exact fun name hm => perm.mem_iff.mpr ((List.dropLast_sublist names).subset hm)
    · exact perm.mem_iff.mpr (by decide)
  · exact ofJson?_members hms (perm.nodup_iff.mpr (by decide)) (fun name => perm.mem_iff.mpr)
      (.inr hnone)

theorem mapM_eq_of_forall₂ {rows : List TableRow} {vs : List Value}
    (h : List.Forall₂ (fun row v => PointRecord.ofJson? v = row.collected?) rows vs) :
    vs.mapM PointRecord.ofJson? = rows.mapM collected? := by
  induction h with
  | nil => rfl
  | cons hv _ ih => rw [List.mapM_cons, List.mapM_cons, hv, ih]

theorem exists_readsAs_objects {cs : List Char} {rows : List TableRow}
    (h : Json.Enclosed '[' ']' SpellsObject cs rows) :
    ∃ v, Json.ReadsAs (Json.wire cs) v ∧ PointRecord.listOfJson? v = rows.mapM collected? := by
  obtain ⟨vs, ⟨pad, parts, hpad, hparts, hwire⟩, hvs⟩ := h.exists_wire (by decide) (by decide)
    fun cs row h => SpellsObject.exists_readsAs h
  exact ⟨.array vs, hwire ▸ Json.readsAs_items hpad hparts, mapM_eq_of_forall₂ hvs⟩

/-- However rows are written as JSON, they are read one by one. -/
theorem SpellsJson.readJson? {cs : List Char} {rows : List TableRow} (h : SpellsJson cs rows) :
    PointRecord.readJson? (Json.wire cs) = rows.mapM collected? := by
  obtain ⟨v, hv, hrows⟩ := Json.Padded.exists_wire h fun cs rows => exists_readsAs_objects
  rw [PointRecord.readJson?, Json.read?_of_padded hv]
  exact hrows

end TableRow

end PointSelect
