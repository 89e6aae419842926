import PointSelect.Proofs.Command.Stages
import PointSelect.Proofs.PointRecord.Reread
import PointSelect.Proofs.SelectionList.Selection

namespace PointSelect

section

variable {α β : Type} {f : α → Option β} {xs : List α}

theorem mapM_eq_some_iff {ys : List β} :
    xs.mapM f = some ys ↔ List.Forall₂ (fun x y => f x = some y) xs ys := by
  induction xs generalizing ys with
  | nil => cases ys <;> simp
  | cons x xs ih =>
    rw [List.mapM_cons]
    constructor
    · intro h
      obtain ⟨y, hy, h⟩ := Option.bind_eq_some_iff.mp h
      obtain ⟨zs, hzs, h⟩ := Option.bind_eq_some_iff.mp h
      obtain rfl := Option.some.inj h
      exact .cons hy (ih.mp hzs)
    · intro h
      cases h with
      | cons hy hys =>
        rw [hy, ih.mpr hys]
        rfl

theorem isSome_mapM_iff : (xs.mapM f).isSome = true ↔ ∀ x ∈ xs, (f x).isSome = true := by
  induction xs with
  | nil => simp
  | cons x xs ih =>
    rw [List.mapM_cons, List.forall_mem_cons, ← ih]
    cases f x with
    | none => simp
    | some y => cases xs.mapM f <;> simp

theorem elim_eq_ok_iff {ε : Type} {x : Option α} {e : ε} {a : α} :
    x.elim (Except.error e) Except.ok = .ok a ↔ x = some a := by
  cases x <;> simp

end

namespace PointRecord

theorem load_json {d : Directory} {path : String} {bytes : Text.Bytes}
    (stored : d.open? path = .ok (some bytes)) (format : (Place.ofPath path).format = "json") :
    load d path = (readJson? (Text.octets bytes)).elim (.error .json) .ok := by
  simp only [load, stored, format, Option.bind_some]

end PointRecord

namespace Command

theorem octets_selectText (list : SelectionList) (records : List PointRecord) :
    Text.octets (Text.Utf8.encodeString (selectText list records)) =
      Json.wire ((PointRecord.listToJson (list.select (·.point) records)).pretty 0) ++
        Json.wire ['\n'] := by
  rw [← Json.wire_append, Json.wire, Text.Utf8.encodeString, selectText, String.toList_append,
    Json.Document.writePretty, String.toList_ofList]
  rfl

section

variable {d : Directory} {path : String} {list : SelectionList} {records : List PointRecord}

/-- A saved selection is loaded record by record. -/
theorem load_selectText_eq
    (stored : d.open? path = .ok (some (Text.Utf8.encodeString (selectText list records))))
    (format : (Place.ofPath path).format = "json") :
    PointRecord.load d path =
      ((list.select (·.point) records).mapM PointRecord.reread?).elim (.error .json) .ok := by
  have hfeed : Json.Blank (Json.wire ['\n']) := by
    rw [Json.wire_ascii (by decide)]
    rfl
  rw [PointRecord.load_json stored format, octets_selectText,
    PointRecord.readJson?_listToJson _ hfeed]

/-- A selection of a table, that was printed and saved, is a table again exactly as far as its edges
are finite numbers: the records come in their order, with their paths and indices, and with each
edge as it is read where it was written. So is a value that is a finite number, and there is none
where there was none. If there are no other values it is the same table if and only if each number
is read as itself, as all short ones are, and then the same records are selected again and printed
as before. -/
theorem load_selectText
    (stored : d.open? path = .ok (some (Text.Utf8.encodeString (selectText list records))))
    (format : (Place.ofPath path).format = "json") :
    let selected := list.select (·.point) records
    ((∀ r ∈ selected, r.HasFiniteEdges) →
      ∃ again, PointRecord.load d path = .ok again ∧
        List.Forall₂ PointRecord.ReadAs selected again) ∧
    (∀ r ∈ selected, ¬r.HasFiniteEdges → PointRecord.load d path = .error .json) ∧
    ((∀ r ∈ selected, r.HasFiniteValue) →
      (PointRecord.load d path = .ok selected ↔ ∀ r ∈ selected, r.Survives)) ∧
    (∀ r : PointRecord, (∀ x ∈ r.numbers, Json.IsShortNumber x) → r.Survives) ∧
    ∀ (i : Invocation) (search : Bool) (config : SelectionConfig),
      i.task = .select path search none → i.configOf d = .ok config →
      i.source.build d config = .ok list → (∀ r ∈ selected, r.Survives) →
      (i.run d).failure = none ∧ (i.run d).stdout = selectText list records := by
  intro selected
  have hload : PointRecord.load d path =
      (selected.mapM PointRecord.reread?).elim (.error .json) .ok :=
    load_selectText_eq stored format
  have hself : (∀ r ∈ selected, r.HasFiniteValue) →
      (PointRecord.load d path = .ok selected ↔ ∀ r ∈ selected, r.Survives) := by
    intro finite
    rw [hload, elim_eq_ok_iff, mapM_eq_some_iff, List.forall₂_same]
    exact forall₂_congr fun r hr => PointRecord.reread?_eq_self_iff (finite r hr)
  refine ⟨?_, ?_, hself, ?_, ?_⟩
  · intro hedges
    have hsome : (selected.mapM PointRecord.reread?).isSome = true :=
      isSome_mapM_iff.mpr fun r hr => PointRecord.isSome_reread?_iff.mpr (hedges r hr)
    obtain ⟨again, hagain⟩ := Option.isSome_iff_exists.mp hsome
    refine ⟨again, by rw [hload, elim_eq_ok_iff, hagain], ?_⟩
    exact (mapM_eq_some_iff.mp hagain).imp fun r r' => PointRecord.readAs_of_reread?
  · intro r hr hedges
    have hnone : selected.mapM PointRecord.reread? = none := by
      by_contra hne
      have hsome := isSome_mapM_iff.mp (Option.isSome_iff_ne_none.mpr hne) r hr
      exact hedges (PointRecord.isSome_reread?_iff.mp hsome)
    rw [hload, hnone]
    rfl
  · intro r h x hx
    exact Json.reread?_of_isShortNumber (h x hx)
  · intro i search config htask hconfig hbuild hsurvive
    have finite : ∀ r ∈ selected, r.HasFiniteValue := fun r hr => (hsurvive r hr).hasFiniteValue
    have hw : i.Completes d ⟨d, selectText list selected⟩ :=
      .printed htask hconfig hbuild ((hself finite).mpr hsurvive)
    have htext : selectText list selected = selectText list records := by
      rw [selectText, SelectionList.select_select, selectText]
    exact ⟨hw.run_eq.1, hw.run_eq.2.1.trans htext⟩

end

/-- A table of one record with a value, selected by its path. -/
theorem load_selectText_value :
    let records : List PointRecord := [⟨⟨"/a", 7, .ofInt 0, .ofInt 1⟩, some (.ofInt (-3))⟩]
    let list := ((PatternSource.given ["/a"]).build ⟨[], []⟩ {}).toOption.getD .empty
    let saved : Directory :=
      ⟨[(["out.json"], Text.Utf8.encodeString (selectText list records))], []⟩
    saved.open? "out.json" = .ok (some (Text.Utf8.encodeString (selectText list records))) ∧
    (Place.ofPath "out.json").format = "json" ∧
    (∀ r ∈ list.select (·.point) records, ∀ x ∈ r.value, x.isFinite = true) ∧
    list.select (·.point) records = records ∧
    PointRecord.load saved "out.json" = .ok records := by
  intro records list saved
  have stored : saved.open? "out.json" =
      .ok (some (Text.Utf8.encodeString (selectText list records))) := by decide +kernel
  have format : (Place.ofPath "out.json").format = "json" := by decide +kernel
  have hselect : list.select (·.point) records = records := by decide +kernel
  have finite : ∀ r ∈ list.select (·.point) records, ∀ x ∈ r.value, x.isFinite = true := by
    rw [hselect]
    decide +kernel
  have hsurvive : ∀ r ∈ records, ∀ x ∈ r.numbers, Json.reread? x = some x := by decide +kernel
  have hload := (load_selectText stored format).2.2.1 finite
  rw [hselect] at hload
  exact ⟨stored, format, finite, hselect, hload.mpr hsurvive⟩

/-- An edge at infinity makes a saved selection unreadable, and where a number of 16 digits was
saved its neighbour is read. -/
theorem load_selectText_differs :
    let table := "path,n,xmin,xmax\n/a,0,0,inf\n/b,0,0,9007199254740991\n"
    let d : Directory := ⟨[(["t.csv"], Text.Utf8.encodeString table)], []⟩
    let run (pattern : String) : Outcome :=
      (⟨.warn, none, .given [pattern], .select "t.csv" false none⟩ : Invocation).run d
    let saved (pattern : String) : Directory :=
      ⟨[(["out.json"], Text.Utf8.encodeString (run pattern).stdout)], []⟩
    let infinite : PointRecord := ⟨⟨"/a", 0, .ofInt 0, .infinity⟩, none⟩
    let long : PointRecord := ⟨⟨"/b", 0, .ofInt 0, .ofInt 9007199254740991⟩, none⟩
    let neighbour : PointRecord := ⟨⟨"/b", 0, .ofInt 0, .ofInt 9007199254740990⟩, none⟩
    PointRecord.load d "t.csv" = .ok [infinite, long] ∧
    (run "/a").failure = none ∧ PointRecord.load (saved "/a") "out.json" = .error .json ∧
    (run "/b").failure = none ∧ PointRecord.load (saved "/b") "out.json" = .ok [neighbour] ∧
    neighbour ≠ long := by
  decide +kernel

end Command

end PointSelect
