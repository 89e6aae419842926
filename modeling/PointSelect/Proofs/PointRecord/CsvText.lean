import PointSelect.Proofs.PointRecord.TableRow

namespace PointSelect

/-- Under different names the fields of a row are found in any order. -/
theorem Csv.fields?_map {names columns : List String} (distinct : columns.Nodup)
    (known : ∀ name ∈ names, name ∈ columns) (f : String → String) :
    fields? names (some columns) (columns.map f) = some (names.map fun name => some (f name)) := by
  have hzip : List.Forall₂ (fun name field => field = f name) columns (columns.map f) := by
    rw [List.forall₂_map_right_iff, List.forall₂_same]
    exact fun _ _ => rfl
  rw [fields?]
  induction names with
  | nil => rfl
  | cons name names ih =>
    obtain ⟨field, rfl, hfilter⟩ :=
      exists_filter_zip hzip distinct (known name List.mem_cons_self)
    have hrest := ih fun other ho => known other (List.mem_cons_of_mem name ho)
    rw [List.mapM_cons, hfilter, hrest]
    rfl

namespace PointRecord

theorem readIndex?_writeInt (n : Int64) :
    readIndex? (String.ofList (writeInt n.toInt)) = some n := by
  have hrange : InInt64 n.toInt := ⟨n.le_toInt, n.toInt_lt⟩
  have hplain : ∀ cs, writeInt n.toInt ≠ '0' :: 'x' :: cs := by
    intro cs he
    have hx : isNumeral 'x' = true := isNumeral_of_mem_writeInt (n := n.toInt) (by simp [he])
    exact absurd hx (by decide)
  rw [readIndex?, String.toList_ofList]
  split
  · exact absurd ‹_› (hplain _)
  · rw [readInt?_writeInt, Option.bind_eq_bind, Option.bind_some, toInt64?, if_pos hrange,
      Int64.ofInt_toInt]

theorem read?_text (t : Json.NumberToken) :
    Binary64.read? (String.ofList t.text) = some t.nearest := by
  rw [Binary64.read?, String.toList_ofList, t.readChars?_text]

theorem readValue?_elim (value : Option Json.NumberToken) :
    readValue? (String.ofList (value.elim [] (·.text))) = some (value.map (·.nearest)) := by
  cases value with
  | none => rfl
  | some t =>
    have hne : (String.ofList t.text).isEmpty = false := by
      simpa using t.text_ne_nil
    rw [readValue?, Option.elim_some, hne, if_neg Bool.false_ne_true, read?_text]
    rfl

end PointRecord

namespace TableRow

/-- The field under a name. A value that is absent is an empty field. -/
def field (row : TableRow) (name : String) : List Char :=
  match name with
  | "path" => row.path.toList
  | "n" => writeInt row.index.toInt
  | "xmin" => row.lower.text
  | "xmax" => row.upper.text
  | "value" => row.value.elim [] (·.text)
  | _ => []

/-- The ways to write rows as CSV: a row with the names of the fields in any order, and the fields
of each row in that order. -/
def SpellsCsv (cs : List Char) (rows : List TableRow) : Prop :=
  ∃ columns : List String, columns.Perm names ∧
    Csv.SpellsRows cs (columns.map String.toList :: rows.map fun row => columns.map row.field)

theorem ofRow?_map_field {columns : List String} (perm : columns.Perm names) (row : TableRow) :
    PointRecord.ofRow? (some columns) (columns.map fun name => String.ofList (row.field name)) =
      some row.nearest := by
  have distinct : columns.Nodup := perm.nodup_iff.mpr (by decide)
  have hfields := Csv.fields?_map distinct (fun name hm => perm.mem_iff.mpr hm)
    fun name => String.ofList (row.field name)
  rw [PointRecord.ofRow?, ← names, hfields]
  simp only [names, List.map_cons, List.map_nil, field, String.ofList_toList, Option.elim_some,
    PointRecord.readIndex?_writeInt, PointRecord.read?_text, PointRecord.readValue?_elim]
  rfl

/-- The line of a row, its path in quotes. -/
def csvLine (row : TableRow) : List Char :=
  Csv.quote row.path.toList ++ ',' :: (writeInt row.index.toInt ++ ',' :: (row.lower.text ++
    ',' :: (row.upper.text ++ ',' :: row.value.elim [] (·.text))))

/-- Rows as CSV with the fields in the order of a record. -/
def csvText (rows : List TableRow) : List Char :=
  "path,n,xmin,xmax,value".toList ++ '\n' :: rows.flatMap fun row => row.csvLine ++ ['\n']

theorem spellsField_bare {cs : List Char} (h : ∀ c ∈ cs, c ∉ ['"', ',', '\n', '\r']) :
    Csv.SpellsField cs cs := by
  refine .bare (fun hq => h '"' (List.mem_of_mem_head? hq) (by simp)) fun c hc => ?_
  have hmark := h c hc
  simp only [List.mem_cons, List.not_mem_nil, or_false, not_or] at hmark
  exact ⟨hmark.2.1, by simp [Csv.isLineEnd, hmark]⟩

theorem spellsRow_csvLine (row : TableRow) :
    Csv.SpellsRow row.csvLine (names.map row.field) := by
  have hindex : ∀ c ∈ writeInt row.index.toInt, c ∉ ['"', ',', '\n', '\r'] := by
    intro c hc hm
    have hall : ∀ c ∈ ['"', ',', '\n', '\r'], isNumeral c = false := by simp [isNumeral]
    have hn := isNumeral_of_mem_writeInt hc
    rw [hall c hm] at hn
    cases hn
  have htext : ∀ t : Json.NumberToken, ∀ c ∈ t.text, c ∉ ['"', ',', '\n', '\r'] := by
    intro t c hc hm
    have hall : ∀ c ∈ ['"', ',', '\n', '\r'],
        c.isDigit = false ∧ c ∉ ['.', 'e', 'E', '-', '+'] := by simp
    rcases Json.NumberToken.mem_text hc with hd | hc
    · rw [(hall c hm).1] at hd
      cases hd
    · exact (hall c hm).2 hc
  have hvalue : ∀ c ∈ row.value.elim [] (·.text), c ∉ ['"', ',', '\n', '\r'] := by
    cases row.value with
    | none => simp
    | some t => exact htext t
  exact .cons (.quoted _) (.cons (spellsField_bare hindex) (.cons (spellsField_bare (htext _))
    (.cons (spellsField_bare (htext _)) (.last (spellsField_bare hvalue)))))

/-- All rows can be written as CSV. -/
theorem spellsCsv_csvText (rows : List TableRow) : SpellsCsv (csvText rows) rows := by
  have hrows : Csv.SpellsRows (rows.flatMap fun row => row.csvLine ++ ['\n'])
      (rows.map fun row => names.map row.field) := by
    induction rows with
    | nil => exact .nil
    | cons row rows ih =>
      rw [List.flatMap_cons, List.append_assoc]
      exact .cons row.spellsRow_csvLine (by simp [csvLine, Csv.quote]) rfl ih
  have hheader : Csv.SpellsRow "path,n,xmin,xmax,value".toList (names.map String.toList) := by
    have hname : ∀ name ∈ names, Csv.SpellsField name.toList name.toList := by
      have hall : ∀ name ∈ names, ∀ c ∈ name.toList, c ∉ ['"', ',', '\n', '\r'] := by simp [names]
      exact fun name hm => spellsField_bare (hall name hm)
    exact .cons (hname "path" (by decide)) (.cons (hname "n" (by decide))
      (.cons (hname "xmin" (by decide)) (.cons (hname "xmax" (by decide))
        (.last (hname "value" (by decide))))))
  refine ⟨names, .refl _, ?_⟩
  exact .cons hheader (by decide) rfl hrows

/-- However rows are written as CSV, they are read as the records with the nearest numbers. -/
theorem SpellsCsv.readCsv? {cs : List Char} {rows : List TableRow} (h : SpellsCsv cs rows) :
    PointRecord.readCsv? (Json.wire cs) = some (rows.map nearest) := by
  obtain ⟨columns, perm, hrows⟩ := h
  have hfirst : ∀ row ∈ (columns.map String.toList ::
      rows.map fun row => columns.map row.field).head?,
      ∀ field ∈ row.head?, field.head? ≠ some '\uFEFF' := by
    intro row hrow field hfield
    obtain rfl : columns.map String.toList = row := Option.some.inj hrow
    obtain ⟨name, hname, rfl⟩ := List.mem_map.mp (List.mem_of_mem_head? hfield)
    have hnames : ∀ name ∈ names, name.toList.head? ≠ some '\uFEFF' := by decide
    exact hnames name (perm.mem_iff.mp hname)
  have hmark := hrows.head?_ne (by decide) (by decide) (by decide) hfirst
  have htable := hrows.read?_wire hmark (by simp)
  have hnames : (columns.map String.toList).map String.ofList = columns := by
    rw [List.map_map]
    exact List.map_id'' (fun _ => String.ofList_toList) columns
  have hread : ∀ row : TableRow, PointRecord.ofRow? (some columns)
      ((columns.map row.field).map String.ofList) = some row.nearest := by
    intro row
    rw [List.map_map]
    exact ofRow?_map_field perm row
  rw [PointRecord.readCsv?, htable, hnames, List.map_map]
  exact mapM_map_eq_some hread rows

end TableRow

end PointSelect
