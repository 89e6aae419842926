import PointSelect.Proofs.Command.Reload
import PointSelect.Proofs.Command.Search
import PointSelect.Proofs.PointRecord.CsvText
import PointSelect.Proofs.PointRecord.JsonText

namespace PointSelect

theorem PointRecord.load_csv {d : Directory} {path : String} {bytes : Text.Bytes}
    (stored : d.open? path = .ok (some bytes)) (format : (Place.ofPath path).format = "csv") :
    load d path = (readCsv? (Text.octets bytes)).elim (.error .csv) .ok := by
  simp only [load, stored, format, Option.bind_some]

namespace TableRow

/-- Rows of which JSON's reader takes each number for the nearest one. -/
def Agree (rows : List TableRow) : Prop := ∀ row ∈ rows, ∀ t ∈ row.numbers, t.IsFaithful

section

variable {rows : List TableRow}

theorem mapM_collected?_eq_nearest_iff :
    rows.mapM collected? = some (rows.map nearest) ↔ Agree rows := by
  rw [mapM_eq_some_iff, List.forall₂_map_right_iff, List.forall₂_same]
  exact forall₂_congr fun row _ => collected?_eq_nearest_iff

theorem forall₂_collectedAs {records : List PointRecord}
    (h : rows.mapM collected? = some records) : List.Forall₂ CollectedAs rows records :=
  (mapM_eq_some_iff.mp h).imp fun _ _ => collected?_eq_some_iff.mp

/-- Lists that ask for no positions select the same rows whatever the numbers are taken for. -/
theorem places_collected {records : List PointRecord}
    (h : List.Forall₂ CollectedAs rows records) {list : SelectionList}
    (blind : ∀ p ∈ list.patterns, p.selector.coordinate? ≠ some .position) :
    list.places (·.point) records = list.places (·.point) (rows.map nearest) := by
  apply list.places_congr_points
  rw [List.forall₂_map_right_iff]
  refine h.flip.imp fun r row hr => ?_
  exact SelectionList.accepts_of_no_position blind hr.path hr.index

variable {d : Directory} {jsonPath csvPath json csv : String}
  (storedJson : d.open? jsonPath = .ok (some (Text.Utf8.encodeString json)))
  (storedCsv : d.open? csvPath = .ok (some (Text.Utf8.encodeString csv)))
  (formatJson : (Place.ofPath jsonPath).format = "json")
  (formatCsv : (Place.ofPath csvPath).format = "csv")
  (writtenJson : SpellsJson json.toList rows) (writtenCsv : SpellsCsv csv.toList rows)
include storedJson storedCsv formatJson formatCsv writtenJson writtenCsv

/-- The same rows, written as JSON and as CSV in any way. The CSV file is always a table, of the
records with the nearest numbers. The JSON file is one unless a number is too large, with the same
paths and indices in the same order, and with values at the same rows; only its numbers are those of
JSON's reader. So all lists without positions select the same rows, and the tables are the same if
and only if that reader takes each number for the nearest one, as it does where it rounds once. -/
theorem load_formats :
    let nearest := rows.map nearest
    PointRecord.load d csvPath = .ok nearest ∧
    ((∀ row ∈ rows, ∀ t ∈ row.numbers, t.numeral.toBinary64?.isSome = true) →
      ∃ records, PointRecord.load d jsonPath = .ok records) ∧
    (∀ row ∈ rows, ∀ t ∈ row.numbers, t.numeral.toBinary64? = none →
      PointRecord.load d jsonPath = .error .json) ∧
    (∀ records, PointRecord.load d jsonPath = .ok records →
      List.Forall₂ CollectedAs rows records ∧
      ∀ list : SelectionList, (∀ p ∈ list.patterns, p.selector.coordinate? ≠ some .position) →
        list.places (·.point) records = list.places (·.point) nearest) ∧
    (PointRecord.load d jsonPath = PointRecord.load d csvPath ↔ Agree rows) ∧
    (∀ t : Json.NumberToken, t.IsRoundedOnce → t.IsFaithful) ∧
    (Agree rows → ∀ list output,
      (Command.Action.select list jsonPath output).run ⟨d, ""⟩ =
        (Command.Action.select list csvPath output).run ⟨d, ""⟩) := by
  intro nearest
  have hcsv : PointRecord.load d csvPath = .ok nearest := by
    have hread : PointRecord.readCsv? (Text.octets (Text.Utf8.encodeString csv)) = some nearest :=
      writtenCsv.readCsv?
    rw [PointRecord.load_csv storedCsv formatCsv, hread]
    rfl
  have hjson : PointRecord.load d jsonPath =
      (rows.mapM collected?).elim (.error .json) .ok := by
    have hread : PointRecord.readJson? (Text.octets (Text.Utf8.encodeString json)) =
        rows.mapM collected? := writtenJson.readJson?
    rw [PointRecord.load_json storedJson formatJson, hread]
  have hsame : PointRecord.load d jsonPath = PointRecord.load d csvPath ↔ Agree rows := by
    rw [hcsv, hjson, elim_eq_ok_iff]
    exact mapM_collected?_eq_nearest_iff
  refine ⟨hcsv, ?_, ?_, ?_, hsame, fun _ => Json.NumberToken.isFaithful_of_isRoundedOnce, ?_⟩
  · intro h
    obtain ⟨records, hrecords⟩ := Option.isSome_iff_exists.mp
      (isSome_mapM_iff.mpr fun row hrow => isSome_collected?_iff.mpr (h row hrow))
    exact ⟨records, by rw [hjson, hrecords]; rfl⟩
  · intro row hrow t ht hnone
    have hmap : rows.mapM collected? = none := by
      by_contra hne
      have hsome := isSome_mapM_iff.mp (Option.isSome_iff_ne_none.mpr hne) row hrow
      have ht := isSome_collected?_iff.mp hsome t ht
      rw [hnone] at ht
      cases ht
    rw [hjson, hmap]
    rfl
  · intro records hload
    rw [hjson, elim_eq_ok_iff] at hload
    have hcollected := forall₂_collectedAs hload
    exact ⟨hcollected, fun list => places_collected hcollected⟩
  · intro hagree list output
    rw [Command.Action.run_select, Command.Action.run_select, hsame.mpr hagree]

end

/-- Two rows of whole numbers, one of them with a value and a path that CSV has to quote. -/
theorem load_formats_whole :
    let token (n : Int) : Json.NumberToken := (Json.wellFormed_integerNumeral n).token
    let rows : List TableRow :=
      [⟨"/a,\"b\"", 7, token 0, token 1, some (token (-3))⟩, ⟨"/c", -7, token 1, token 2, none⟩]
    let records : List PointRecord :=
      [⟨⟨"/a,\"b\"", 7, .ofInt 0, .ofInt 1⟩, some (.ofInt (-3))⟩,
        ⟨⟨"/c", -7, .ofInt 1, .ofInt 2⟩, none⟩]
    let json := String.ofList (jsonText rows)
    let csv := String.ofList (csvText rows)
    let d : Directory :=
      ⟨[(["t.json"], Text.Utf8.encodeString json), (["t.csv"], Text.Utf8.encodeString csv)], []⟩
    d.open? "t.json" = .ok (some (Text.Utf8.encodeString json)) ∧
    d.open? "t.csv" = .ok (some (Text.Utf8.encodeString csv)) ∧
    (Place.ofPath "t.json").format = "json" ∧ (Place.ofPath "t.csv").format = "csv" ∧
    SpellsJson json.toList rows ∧ SpellsCsv csv.toList rows ∧
    PointRecord.load d "t.json" = .ok records ∧ PointRecord.load d "t.csv" = .ok records := by
  intro token rows records json csv d
  have storedJson : d.open? "t.json" = .ok (some (Text.Utf8.encodeString json)) := by
    decide +kernel
  have storedCsv : d.open? "t.csv" = .ok (some (Text.Utf8.encodeString csv)) := by decide +kernel
  have formatJson : (Place.ofPath "t.json").format = "json" := by decide +kernel
  have formatCsv : (Place.ofPath "t.csv").format = "csv" := by decide +kernel
  have writtenJson : SpellsJson json.toList rows := by
    rw [String.toList_ofList]
    exact spellsJson_jsonText rows
  have writtenCsv : SpellsCsv csv.toList rows := by
    rw [String.toList_ofList]
    exact spellsCsv_csvText rows
  obtain ⟨hcsv, -, -, -, hsame, honce, -⟩ :=
    load_formats storedJson storedCsv formatJson formatCsv writtenJson writtenCsv
  have hagree : Agree rows := by
    intro row hrow t ht
    have hall : ∀ row ∈ rows, ∀ t ∈ row.numbers, t.numeral.fraction = none ∧
        t.numeral.exponent = none ∧ t.numeral.digits ≤ Json.Numeral.maxSignificand := by decide
    obtain ⟨fraction, exponent, few⟩ := hall row hrow t ht
    exact honce t (.whole fraction exponent few)
  have hrecords : rows.map nearest = records := by decide +kernel
  rw [hrecords] at hcsv
  exact ⟨storedJson, storedCsv, formatJson, formatCsv, writtenJson, writtenCsv,
    (hsame.mpr hagree).trans hcsv, hcsv⟩

/-- An edge at 1e-23 is read from CSV, and its neighbour from JSON. So a pattern that asks for this
edge selects the row of the one table and not that of the other. -/
theorem load_formats_differ :
    let json := "[\x7b\"path\":\"/b\",\"n\":0,\"xmin\":1e-23,\"xmax\":1,\"value\":null\x7d]"
    let csv := "path,n,xmin,xmax,value\n\"/b\",0,1e-23,1,\n"
    let d : Directory :=
      ⟨[(["t.json"], Text.Utf8.encodeString json), (["t.csv"], Text.Utf8.encodeString csv)], []⟩
    let run (points : String) : Command.Outcome :=
      (⟨.warn, none, .given ["/b@1e-23"], .select points false none⟩ : Command.Invocation).run d
    let edge : Binary64 := .signed false (Decimal.magnitudeOf 1 (-23))
    let neighbour : Binary64 := .signed false (Decimal.magnitudeOf 10000000000000001 (-39))
    (∃ lower upper : Json.NumberToken,
      lower.text = "1e-23".toList ∧ upper.text = "1".toList ∧
      SpellsJson json.toList [⟨"/b", 0, lower, upper, none⟩] ∧
      SpellsCsv csv.toList [⟨"/b", 0, lower, upper, none⟩]) ∧
    PointRecord.load d "t.csv" = .ok [⟨⟨"/b", 0, edge, .ofInt 1⟩, none⟩] ∧
    PointRecord.load d "t.json" = .ok [⟨⟨"/b", 0, neighbour, .ofInt 1⟩, none⟩] ∧
    edge ≠ neighbour ∧ (run "t.csv").failure = none ∧ (run "t.json").failure = none ∧
    (run "t.json").stdout = "[]\n" ∧ (run "t.csv").stdout ≠ "[]\n" := by
  intro json csv d run edge neighbour
  let lower := (Json.wellFormed_decimalNumeral (⟨by simp, by simp⟩ : Json.IsDigits ['1'])
    (by decide) false (-23)).token
  let upper := (Json.wellFormed_integerNumeral 1).token
  let rows : List TableRow := [⟨"/b", 0, lower, upper, none⟩]
  have writtenJson : json.toList = jsonText rows := by decide +kernel
  have writtenCsv : csv.toList = csvText rows := by decide +kernel
  refine ⟨⟨lower, upper, by decide, by decide, ?_, ?_⟩, by decide +kernel⟩
  · rw [writtenJson]
    exact spellsJson_jsonText rows
  · rw [writtenCsv]
    exact spellsCsv_csvText rows

end TableRow

end PointSelect
