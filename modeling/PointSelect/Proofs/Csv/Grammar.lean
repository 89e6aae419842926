import PointSelect.Csv
import PointSelect.Proofs.Json.Text
import Mathlib.Data.List.Forall2

namespace PointSelect

theorem mapM_map_eq_some {α β γ : Type} {f : β → Option γ} {g : α → β} {h : α → γ}
    (hf : ∀ a, f (g a) = some (h a)) (as : List α) : (as.map g).mapM f = some (as.map h) := by
  induction as with
  | nil => rfl
  | cons a as ih =>
    rw [List.map_cons, List.mapM_cons, hf, ih]
    rfl

namespace Csv

/-- A field with each quote in it doubled. -/
def double (field : List Char) : List Char :=
  field.flatMap fun c => if c = '"' then ['"', '"'] else [c]

/-- A field in quotes. -/
def quote (field : List Char) : List Char := '"' :: (double field ++ ['"'])

/-- The ways to write a field: it stands there as it is if nothing in it means anything else, or it
stands in quotes. -/
inductive SpellsField : List Char → List Char → Prop where
  | bare {cs : List Char} (head : cs.head? ≠ some '"')
    (marks : ∀ c ∈ cs, c ≠ ',' ∧ isLineEnd c = false) : SpellsField cs cs
  | quoted (field : List Char) : SpellsField (quote field) field

/-- The ways to write a row: fields with commas between them. -/
inductive SpellsRow : List Char → List (List Char) → Prop where
  | last {cs field : List Char} (h : SpellsField cs field) : SpellsRow cs [field]
  | cons {cs ds field : List Char} {fields : List (List Char)} (h : SpellsField cs field)
    (rest : SpellsRow ds fields) : SpellsRow (cs ++ ',' :: ds) (field :: fields)

/-- The ways to write rows: each ends with a line end, which the last one need not, and there may be
more of them. -/
inductive SpellsRows : List Char → List (List (List Char)) → Prop where
  | nil : SpellsRows [] []
  | lineEnd {c : Char} {cs : List Char} {rows : List (List (List Char))} (h : isLineEnd c = true)
    (rest : SpellsRows cs rows) : SpellsRows (c :: cs) rows
  | last {cs : List Char} {row : List (List Char)} (h : SpellsRow cs row) (hne : cs ≠ []) :
    SpellsRows cs [row]
  | cons {c : Char} {cs ds : List Char} {row : List (List Char)} {rows : List (List (List Char))}
    (h : SpellsRow cs row) (hne : cs ≠ []) (hc : isLineEnd c = true) (rest : SpellsRows ds rows) :
    SpellsRows (cs ++ c :: ds) (row :: rows)

section

variable {c : Char} {cs field : List Char} {fields row : List (List Char)}
  {rows : List (List (List Char))}

/-- What one character does at each position. -/
theorem rowsFrom_cons (p : Position) (c : Char) (cs : List Char) : rowsFrom p (c :: cs) =
    if p = .quoted then
      if c = '"' then rowsFrom .quoteEnd cs else pushChar c (rowsFrom .quoted cs)
    else if c = '"' ∧ p = .quoteEnd then pushChar '"' (rowsFrom .quoted cs)
    else if c = '"' ∧ p ≠ .bare then rowsFrom .quoted cs
    else if c = ',' then pushField (rowsFrom .fieldStart cs)
    else if !isLineEnd c then pushChar c (rowsFrom .bare cs)
    else if p = .lineStart then rowsFrom .lineStart cs
    else [[]] :: rowsFrom .lineStart cs := by
  by_cases hc : c = '"'
  · subst hc
    cases p <;> simp [rowsFrom]
  · cases p <;> simp [rowsFrom, hc]

theorem rowsFrom_fieldStart (h : cs.head? ≠ some '"') :
    rowsFrom .fieldStart cs = rowsFrom .bare cs := by
  cases cs with
  | nil => rfl
  | cons c cs =>
    have hc : c ≠ '"' := fun he => h (by rw [he]; rfl)
    simp [rowsFrom_cons, hc]

theorem rowsFrom_quoteEnd (h : cs.head? ≠ some '"') :
    rowsFrom .quoteEnd cs = rowsFrom .bare cs := by
  cases cs with
  | nil => rfl
  | cons c cs =>
    have hc : c ≠ '"' := fun he => h (by rw [he]; rfl)
    simp [rowsFrom_cons, hc]

theorem rowsFrom_lineStart (hne : cs ≠ []) (h : ∀ c ∈ cs.head?, isLineEnd c = false) :
    rowsFrom .lineStart cs = rowsFrom .fieldStart cs := by
  cases cs with
  | nil => exact absurd rfl hne
  | cons c cs =>
    have hc := h c rfl
    by_cases hq : c = '"'
    · subst hq
      simp [rowsFrom_cons]
    · simp [rowsFrom_cons, hq, hc]

theorem rowsFrom_bare (h : ∀ c ∈ cs, c ≠ ',' ∧ isLineEnd c = false) (rest : List Char) :
    rowsFrom .bare (cs ++ rest) = cs.foldr pushChar (rowsFrom .bare rest) := by
  induction cs with
  | nil => rfl
  | cons c cs ih =>
    obtain ⟨hcomma, hend⟩ := h c List.mem_cons_self
    rw [List.cons_append, List.foldr_cons, ← ih fun d hd => h d (List.mem_cons_of_mem c hd)]
    simp [rowsFrom_cons, hcomma, hend]

/-- Within quotes everything is taken as it is, up to the quote that ends them. -/
theorem rowsFrom_quoted (field rest : List Char) :
    rowsFrom .quoted (double field ++ '"' :: rest) =
      field.foldr pushChar (rowsFrom .quoteEnd rest) := by
  induction field with
  | nil => simp [double, rowsFrom_cons]
  | cons c cs ih =>
    rw [double, List.flatMap_cons, List.append_assoc, List.foldr_cons, ← ih, double]
    by_cases hc : c = '"'
    · simp [rowsFrom_cons, hc]
    · simp [rowsFrom_cons, hc]

theorem foldr_pushChar (cs field : List Char) (fields : List (List Char))
    (rows : List (List (List Char))) :
    cs.foldr pushChar ((field :: fields) :: rows) = ((cs ++ field) :: fields) :: rows := by
  induction cs with
  | nil => rfl
  | cons c cs ih =>
    rw [List.foldr_cons, ih]
    rfl

/-- A field is read up to what follows it. -/
theorem SpellsField.rowsFrom_append (h : SpellsField cs field) {rest : List Char}
    (hrest : rest.head? ≠ some '"') :
    rowsFrom .fieldStart (cs ++ rest) = field.foldr pushChar (rowsFrom .bare rest) := by
  cases h with
  | bare head marks =>
    have hhead : (cs ++ rest).head? ≠ some '"' := by
      cases cs with
      | nil => exact hrest
      | cons c cs => exact head
    rw [rowsFrom_fieldStart hhead, rowsFrom_bare marks]
  | quoted =>
    have hopen : ∀ ds, rowsFrom .fieldStart ('"' :: ds) = rowsFrom .quoted ds := by
      intro ds
      simp [rowsFrom_cons]
    rw [quote, List.cons_append, hopen, List.append_assoc, List.singleton_append,
      rowsFrom_quoted, rowsFrom_quoteEnd hrest]

/-- A row is read up to a line end or to the end of the text. -/
theorem SpellsRow.rowsFrom_append (h : SpellsRow cs row) {rest : List Char}
    (hhead : rest.head? ≠ some '"') (hrest : rowsFrom .bare rest = [[]] :: rows) :
    rowsFrom .fieldStart (cs ++ rest) = row :: rows := by
  induction h with
  | last hf => rw [hf.rowsFrom_append hhead, hrest, foldr_pushChar, List.append_nil]
  | @cons cs ds field fields hf _ ih =>
    have hcomma : rowsFrom .bare (',' :: (ds ++ rest)) = ([] :: fields) :: rows := by
      simp [rowsFrom_cons, ih, pushField]
    rw [List.append_assoc, List.cons_append, hf.rowsFrom_append (by simp), hcomma, foldr_pushChar,
      List.append_nil]

theorem SpellsField.isLineEnd_head (h : SpellsField cs field) :
    ∀ c ∈ cs.head?, isLineEnd c = false := by
  intro c hc
  cases h with
  | bare _ marks => exact (marks c (List.mem_of_mem_head? hc)).2
  | quoted =>
    obtain rfl : '"' = c := Option.some.inj hc
    decide

theorem SpellsRow.isLineEnd_head (h : SpellsRow cs row) : ∀ c ∈ cs.head?, isLineEnd c = false := by
  intro c hc
  cases h with
  | last hf => exact hf.isLineEnd_head c hc
  | @cons cs ds _ _ hf _ =>
    cases cs with
    | nil =>
      obtain rfl : ',' = c := Option.some.inj hc
      decide
    | cons d cs => exact hf.isLineEnd_head c hc

theorem ne_of_isLineEnd (h : isLineEnd c = true) : c ≠ ',' ∧ c ≠ '"' := by
  constructor <;> rintro rfl <;> exact absurd h (by decide)

/-- Rows are read as they are meant. -/
theorem SpellsRows.rowsFrom_eq (h : SpellsRows cs rows) : rowsFrom .lineStart cs = rows := by
  induction h with
  | nil => rfl
  | @lineEnd c cs rows hc _ ih =>
    obtain ⟨hcomma, hquote⟩ := ne_of_isLineEnd hc
    simp [rowsFrom_cons, hcomma, hquote, hc, ih]
  | @last cs row hr hne =>
    have hread : rowsFrom .fieldStart (cs ++ []) = [row] := hr.rowsFrom_append (by simp) rfl
    rw [rowsFrom_lineStart hne hr.isLineEnd_head]
    rwa [List.append_nil] at hread
  | @cons c cs ds row rows hr hne hc _ ih =>
    obtain ⟨hcomma, hquote⟩ := ne_of_isLineEnd hc
    have hrest : rowsFrom .bare (c :: ds) = [[]] :: rows := by
      simp [rowsFrom_cons, hcomma, hc, ih]
    have hhead : ∀ d ∈ (cs ++ c :: ds).head?, isLineEnd d = false := by
      intro d hd
      rw [List.head?_append_of_ne_nil _ hne] at hd
      exact hr.isLineEnd_head d hd
    rw [rowsFrom_lineStart (by simp) hhead]
    exact hr.rowsFrom_append (by simpa using hquote) hrest

/-- No text begins with a character that no first field begins with, unless it is a mark. -/
theorem SpellsRows.head?_ne {mark : Char} (h : SpellsRows cs rows) (hquote : mark ≠ '"')
    (hcomma : mark ≠ ',') (hend : isLineEnd mark = false)
    (hfirst : ∀ row ∈ rows.head?, ∀ field ∈ row.head?, field.head? ≠ some mark) :
    cs.head? ≠ some mark := by
  have hfield : ∀ {cs field}, SpellsField cs field → field.head? ≠ some mark →
      cs.head? ≠ some mark := by
    intro cs field h hf
    cases h with
    | bare => exact hf
    | quoted => exact fun he => hquote (Option.some.inj he).symm
  have hrow : ∀ {cs row}, SpellsRow cs row → (∀ field ∈ row.head?, field.head? ≠ some mark) →
      cs.head? ≠ some mark := by
    intro cs row h hf
    cases h with
    | last h => exact hfield h (hf _ rfl)
    | @cons cs ds _ _ h _ =>
      have hcs := hfield h (hf _ rfl)
      cases cs with
      | nil => exact fun he => hcomma (Option.some.inj he).symm
      | cons c cs => exact hcs
  cases h with
  | nil => simp
  | lineEnd hc _ =>
    intro he
    rw [Option.some.inj he] at hc
    rw [hc] at hend
    cases hend
  | last h _ => exact hrow h (hfirst _ rfl)
  | cons h hne _ _ =>
    rw [List.head?_append_of_ne_nil _ hne]
    exact hrow h (hfirst _ rfl)

theorem double_append (a b : List Char) : double (a ++ b) = double a ++ double b :=
  List.flatMap_append

theorem double_eq_self (h : '"' ∉ cs) : double cs = cs := by
  induction cs with
  | nil => rfl
  | cons c cs ih =>
    have hc : c ≠ '"' := fun he => h (by simp [he])
    rw [double, List.flatMap_cons, if_neg hc, ← double, ih fun hm => h (List.mem_cons_of_mem c hm)]
    rfl

end

section

open Json (wire wire_append wire_cons wire_cons_ascii)

variable {cs field : List Char} {row names : List (List Char)} {rows : List (List (List Char))}

/-- The octets of a character are not doubled unless it is a quote. -/
theorem wire_double (field : List Char) : wire (double field) = double (wire field) := by
  induction field with
  | nil => rfl
  | cons c cs ih =>
    rw [double, List.flatMap_cons, ← double]
    by_cases hc : c = '"'
    · subst hc
      have hquote : ∀ cs, wire ('"' :: cs) = '"' :: wire cs := wire_cons_ascii (by decide)
      rw [if_pos rfl, List.cons_append, List.singleton_append, hquote, hquote, hquote, ih]
      rfl
    · have hself : double (wire [c]) = wire [c] := by
        apply double_eq_self
        intro hm
        exact hc (List.mem_singleton.mp (Json.mem_of_mem_wire hm (by decide))).symm
      rw [if_neg hc, List.singleton_append, wire_cons, wire_cons c cs, double_append, hself, ih]

theorem wire_quote (field : List Char) : wire (quote field) = quote (wire field) := by
  have hquote : ∀ cs, wire ('"' :: cs) = '"' :: wire cs := wire_cons_ascii (by decide)
  rw [quote, hquote, wire_append, hquote, wire_double]
  rfl

theorem ascii_of_isLineEnd {c : Char} (h : isLineEnd c = true) : c.toNat < 0x80 := by
  have hc : c = '\n' ∨ c = '\r' := by simpa [isLineEnd] using h
  rcases hc with rfl | rfl <;> decide

/-- What a field is written with is what its octets are written with: everything that means
something is ASCII. -/
theorem SpellsField.encoded (h : SpellsField cs field) : SpellsField (wire cs) (wire field) := by
  cases h with
  | bare head marks =>
    refine .bare (fun hq => head (Json.head?_of_head?_wire hq (by decide))) ?_
    intro c hc
    refine ⟨?_, ?_⟩
    · rintro rfl
      exact (marks ',' (Json.mem_of_mem_wire hc (by decide))).1 rfl
    · by_contra hend
      have hend := eq_true_of_ne_false hend
      have hm := (marks c (Json.mem_of_mem_wire hc (ascii_of_isLineEnd hend))).2
      rw [hend] at hm
      cases hm
  | quoted field =>
    rw [wire_quote]
    exact .quoted _

theorem SpellsRow.encoded (h : SpellsRow cs row) : SpellsRow (wire cs) (row.map wire) := by
  induction h with
  | last hf => exact .last hf.encoded
  | cons hf _ ih =>
    rw [wire_append, wire_cons_ascii (by decide)]
    exact .cons hf.encoded ih

theorem SpellsRows.encoded (h : SpellsRows cs rows) :
    SpellsRows (wire cs) (rows.map (·.map wire)) := by
  induction h with
  | nil => exact .nil
  | lineEnd hc _ ih =>
    rw [wire_cons_ascii (ascii_of_isLineEnd hc)]
    exact .lineEnd hc ih
  | last hr hne => exact .last hr.encoded (Json.wire_ne_nil hne)
  | cons hr hne hc _ ih =>
    rw [wire_append, wire_cons_ascii (ascii_of_isLineEnd hc)]
    exact .cons hr.encoded (Json.wire_ne_nil hne) hc ih

theorem textRow?_map_wire (row : List (List Char)) :
    textRow? (row.map wire) = some (row.map String.ofList) := by
  apply mapM_map_eq_some
  intro field
  rw [Json.ofOctets?_wire, Option.map_some]

/-- A table is read from the octets of its text as it is meant. -/
theorem SpellsRows.read?_wire (h : SpellsRows cs (names :: rows))
    (mark : cs.head? ≠ some '\uFEFF') (same : ∀ row ∈ rows, row.length = names.length) :
    read? (wire cs) =
      some ⟨some (names.map String.ofList), rows.map (·.map String.ofList)⟩ := by
  have hmark : ¬byteOrderMark.isPrefixOf (wire cs) = true := by
    intro hp
    have hw : byteOrderMark = wire ['\uFEFF'] := by
      rw [byteOrderMark, Json.wire, Text.Utf8.encode, List.flatMap_singleton]
    rw [hw] at hp
    exact mark (Json.head?_of_isPrefixOf_wire hp)
  have hrows := h.encoded.rowsFrom_eq
  have hsame : (rows.map (·.map wire)).all (·.length = (names.map wire).length) = true := by
    rw [List.all_map, List.all_eq_true]
    intro row hrow
    simpa using same row hrow
  rw [read?]
  simp only [if_neg hmark, hrows, List.map_cons]
  rw [if_pos hsame, mapM_map_eq_some textRow?_map_wire, textRow?_map_wire]
  rfl

end

end Csv

end PointSelect
