import PointSelect.Json.Fields
import PointSelect.Json.Writer
import PointSelect.Proofs.Text.Utf8

namespace PointSelect.Json

/-- A text as the reader sees it: the octets that encode it. -/
def wire (cs : List Char) : List Char := Text.octets (Text.Utf8.encode cs)

theorem wire_append (a b : List Char) : wire (a ++ b) = wire a ++ wire b := by
  rw [wire, Text.Utf8.encode_append, Text.octets, List.map_append]
  rfl

theorem wire_cons (c : Char) (cs : List Char) : wire (c :: cs) = wire [c] ++ wire cs :=
  wire_append [c] cs

theorem toNat_octet (b : UInt8) : (Char.ofNat b.toNat).toNat = b.toNat := by
  have hb : b.toNat < 256 := b.toNat_lt
  have hv : b.toNat.isValidChar := .inl (by omega)
  rw [Char.ofNat, dif_pos hv]
  rfl

theorem toUInt8_octet (b : UInt8) : (Char.ofNat b.toNat).toNat.toUInt8 = b := by
  rw [toNat_octet]
  exact UInt8.ofNat_toNat

theorem wire_singleton (c : Char) :
    wire [c] = (Text.Utf8.encodeChar c).map fun b => Char.ofNat b.toNat := by
  simp [wire, Text.octets, Text.Utf8.encode]

theorem wire_ascii {c : Char} (h : c.toNat < 0x80) : wire [c] = [c] := by
  have hb : c.toNat.toUInt8.toNat = c.toNat := Text.Utf8.toNat_toUInt8 (by omega)
  rw [wire_singleton, Text.Utf8.encodeChar]
  simp only [if_pos h, List.map_cons, List.map_nil, hb, Char.ofNat_toNat]

theorem wire_cons_ascii {c : Char} (h : c.toNat < 0x80) (cs : List Char) :
    wire (c :: cs) = c :: wire cs := by
  rw [wire_cons, wire_ascii h]
  rfl

theorem wire_eq_self {cs : List Char} (h : ∀ c ∈ cs, c.toNat < 0x80) : wire cs = cs := by
  induction cs with
  | nil => rfl
  | cons c cs ih =>
    rw [wire_cons_ascii (h c List.mem_cons_self), ih fun d hd => h d (List.mem_cons_of_mem c hd)]

/-- A character that is not ASCII is encoded without ASCII octets. -/
theorem le_of_mem_wire {c x : Char} (h : 0x80 ≤ c.toNat) (hx : x ∈ wire [c]) : 0x80 ≤ x.toNat := by
  have hlt := Text.Utf8.toNat_lt_of_char c
  rw [wire_singleton, List.mem_map] at hx
  obtain ⟨b, hb, rfl⟩ := hx
  rw [toNat_octet]
  have hbyte : ∀ {n : Nat}, b = n.toUInt8 → 0x80 ≤ n → n < 256 → 0x80 ≤ b.toNat := by
    rintro n rfl hn h256
    rwa [Text.Utf8.toNat_toUInt8 h256]
  unfold Text.Utf8.encodeChar at hb
  simp only at hb
  split_ifs at hb with h1 h2 h3
  · omega
  · simp only [List.mem_cons, List.not_mem_nil, or_false] at hb
    rcases hb with hb | hb <;> exact hbyte hb (by omega) (by omega)
  · simp only [List.mem_cons, List.not_mem_nil, or_false] at hb
    rcases hb with hb | hb | hb <;> exact hbyte hb (by omega) (by omega)
  · simp only [List.mem_cons, List.not_mem_nil, or_false] at hb
    rcases hb with hb | hb | hb | hb <;> exact hbyte hb (by omega) (by omega)

/-- What is ASCII in the encoding of a text is there in the text. -/
theorem mem_of_mem_wire {x : Char} {cs : List Char} (h : x ∈ wire cs) (hx : x.toNat < 0x80) :
    x ∈ cs := by
  induction cs with
  | nil => cases h
  | cons c cs ih =>
    rw [wire_cons] at h
    rcases List.mem_append.mp h with hc | hm
    · rcases Nat.lt_or_ge c.toNat 0x80 with ha | ha
      · rw [wire_ascii ha, List.mem_singleton] at hc
        exact hc ▸ List.mem_cons_self
      · have hle := le_of_mem_wire ha hc
        omega
    · exact List.mem_cons_of_mem c (ih hm)

theorem wire_ne_nil {cs : List Char} (h : cs ≠ []) : wire cs ≠ [] := by
  obtain ⟨c, cs, rfl⟩ := List.exists_cons_of_ne_nil h
  have hne : Text.Utf8.encodeChar c ≠ [] := by
    unfold Text.Utf8.encodeChar
    simp only
    split_ifs <;> simp
  rw [wire_cons, wire_singleton]
  simp [hne]

theorem head?_of_head?_wire {x : Char} {cs : List Char} (h : (wire cs).head? = some x)
    (hx : x.toNat < 0x80) : cs.head? = some x := by
  cases cs with
  | nil => cases h
  | cons c cs =>
    obtain ⟨y, ys, hw⟩ := List.exists_cons_of_ne_nil (wire_ne_nil (List.cons_ne_nil c []))
    rw [wire_cons, hw] at h
    obtain rfl : y = x := Option.some.inj h
    have hm : y ∈ wire [c] := by simp [hw]
    rw [List.mem_singleton.mp (mem_of_mem_wire hm hx)]
    rfl

theorem map_octets (bs : Text.Bytes) :
    (Text.octets bs).map (fun c => c.toNat.toUInt8) = bs := by
  induction bs with
  | nil => rfl
  | cons b bs ih =>
    have hcons : Text.octets (b :: bs) = Char.ofNat b.toNat :: Text.octets bs := rfl
    rw [hcons, List.map_cons, toUInt8_octet, ih]

theorem ofOctets?_wire (cs : List Char) : Text.ofOctets? (wire cs) = some cs := by
  rw [Text.ofOctets?, wire, map_octets, Text.Utf8.decode?_encode]

/-- A text whose octets begin with those of a character begins with that character. -/
theorem head?_of_isPrefixOf_wire {c : Char} {cs : List Char}
    (h : (wire [c]).isPrefixOf (wire cs) = true) : cs.head? = some c := by
  obtain ⟨rest, hrest⟩ := List.isPrefixOf_iff_prefix.mp h
  have hdecoded := ofOctets?_wire cs
  rw [← hrest, Text.ofOctets?, List.map_append, wire, map_octets, Text.Utf8.encode,
    List.flatMap_singleton, Text.Utf8.decode?_encodeChar_append] at hdecoded
  obtain ⟨ds, -, rfl⟩ := Option.map_eq_some_iff.mp hdecoded
  rfl

section

variable {c : Char}

theorem readString?_octet (hq : c ≠ '"') (hs : c ≠ '\\') (h : 0x20 ≤ c.toNat) (cs : List Char) :
    readString? (c :: cs) = (readString? cs).map fun p => (.octet c :: p.1, p.2) := by
  have hif : ¬(decide (c.toNat < 0x20) || c == '\\') = true := by
    simpa [hs] using h
  rw [readString?.eq_5 c cs hq (fun _ _ _ _ _ h' => absurd h' hs) fun _ _ h' => absurd h' hs,
    if_neg hif]
  cases readString? cs with
  | none => rfl
  | some p => rfl

theorem readString?_octets {os : List Char}
    (h : ∀ c ∈ os, c ≠ '"' ∧ c ≠ '\\' ∧ 0x20 ≤ c.toNat) (cs : List Char) :
    readString? (os ++ cs) = (readString? cs).map fun p => (os.map .octet ++ p.1, p.2) := by
  induction os with
  | nil => simp
  | cons c os ih =>
    obtain ⟨hq, hs, hc⟩ := h c List.mem_cons_self
    rw [List.cons_append, readString?_octet hq hs hc,
      ih fun d hd => h d (List.mem_cons_of_mem c hd), Option.map_map]
    rfl

theorem readString?_escaped {x : Char} (hu : c ≠ 'u') (h : escaped? c = some x) (cs : List Char) :
    readString? ('\\' :: c :: cs) = (readString? cs).map fun p => (.octet x :: p.1, p.2) := by
  rw [readString?.eq_4 c cs fun _ _ _ _ _ h' => absurd h' hu, h]
  cases readString? cs with
  | none => rfl
  | some p => rfl

end

/-- Four hexadecimal digits that form a number. -/
inductive IsUnit : List Char → Nat → Prop where
  | digits {a b c d : Char} {i j k l n : Nat} (ha : hexDigit? a = some i)
    (hb : hexDigit? b = some j) (hc : hexDigit? c = some k) (hd : hexDigit? d = some l)
    (h : n = ((i * 16 + j) * 16 + k) * 16 + l) : IsUnit [a, b, c, d] n

theorem ascii_of_hexDigit? {c : Char} {i : Nat} (h : hexDigit? c = some i) : c.toNat < 0x80 := by
  have hle : ∀ d : Char, c ≤ d → c.toNat ≤ d.toNat := fun d hd => UInt32.le_iff_toNat_le.mp hd
  unfold hexDigit? at h
  split_ifs at h with hdigit hlower hupper
  · have hd : c.toNat ≤ 57 := (Char.isDigit_iff_toNat.mp hdigit).2
    omega
  · have hf : c ≤ 'f' := by simpa using (Bool.and_eq_true_iff.mp hlower).2
    exact Nat.lt_of_le_of_lt (hle 'f' hf) (by decide)
  · have hf : c ≤ 'F' := by simpa using (Bool.and_eq_true_iff.mp hupper).2
    exact Nat.lt_of_le_of_lt (hle 'F' hf) (by decide)

theorem IsUnit.ascii {ds : List Char} {n : Nat} (h : IsUnit ds n) : ∀ c ∈ ds, c.toNat < 0x80 := by
  cases h with
  | digits ha hb hc hd _ =>
    simp [ascii_of_hexDigit? ha, ascii_of_hexDigit? hb, ascii_of_hexDigit? hc,
      ascii_of_hexDigit? hd]

theorem readString?_unit {ds : List Char} {n : Nat} (h : IsUnit ds n) (cs : List Char) :
    readString? ('\\' :: 'u' :: (ds ++ cs)) =
      (readString? cs).map fun p => (.unit n :: p.1, p.2) := by
  cases h with
  | digits ha hb hc hd h =>
    simp only [List.cons_append, List.nil_append]
    rw [readString?.eq_3, ha, hb, hc, hd, h]
    simp only [Option.bind_eq_bind, Option.bind_some]
    cases readString? cs with
    | none => rfl
    | some p => rfl

theorem hexDigit?_hexChar (n : Nat) : hexDigit? (hexChar n) = some (n % 16) := by
  have hall : ∀ i < 16, hexDigit? (Nat.digitChar i) = some i := by decide
  exact hall (n % 16) (Nat.mod_lt n (by decide))

theorem bytes?_map_octet (bs : Text.Bytes) (w : Written) :
    bytes? ((bs.map fun b => Char.ofNat b.toNat).map .octet ++ w) =
      (bytes? w).map (bs ++ ·) := by
  induction bs with
  | nil => simp
  | cons b bs ih =>
    rw [List.map_cons, List.map_cons, List.cons_append, bytes?, ih, toUInt8_octet]
    cases bytes? w with
    | none => rfl
    | some p => rfl

theorem bytes?_octets (c : Char) (w : Written) :
    bytes? ((wire [c]).map .octet ++ w) = (bytes? w).map (Text.Utf8.encodeChar c ++ ·) := by
  rw [wire_singleton]
  exact bytes?_map_octet _ w

theorem bytes?_unit (c : Char) (w : Written) :
    bytes? (.unit c.toNat :: w) = (bytes? w).map (Text.Utf8.encodeChar c ++ ·) := by
  have hscalar : (decide (c.toNat < 0xD800) || decide (0xDFFF < c.toNat)) = true := by
    rw [Bool.or_eq_true, decide_eq_true_eq, decide_eq_true_eq]
    exact c.valid.imp id fun h => h.1
  rw [bytes?.eq_def]
  dsimp only
  rw [if_pos hscalar, Char.ofNat_toNat]
  cases bytes? w with
  | none => rfl
  | some p => rfl

/-- The first half of the two units that a character beyond their range is written with. -/
def highUnit (c : Char) : Nat := 0xD800 + (c.toNat - 0x10000) / 1024

/-- The second half. -/
def lowUnit (c : Char) : Nat := 0xDC00 + (c.toNat - 0x10000) % 1024

theorem bytes?_units {c : Char} (h : 0x10000 ≤ c.toNat) (w : Written) :
    bytes? (.unit (highUnit c) :: .unit (lowUnit c) :: w) =
      (bytes? w).map (Text.Utf8.encodeChar c ++ ·) := by
  have hlt := Text.Utf8.toNat_lt_of_char c
  have hcode : (highUnit c - 0xD800) * 1024 + (lowUnit c - 0xDC00) + 0x10000 = c.toNat := by
    unfold highUnit lowUnit
    omega
  have hhigh : 0xD800 ≤ highUnit c ∧ highUnit c < 0xDC00 := by
    unfold highUnit
    omega
  have hlow : 0xDC00 ≤ lowUnit c ∧ lowUnit c ≤ 0xDFFF := by
    unfold lowUnit
    omega
  rw [bytes?.eq_def]
  dsimp only
  rw [if_neg (by simp; omega), if_neg (by omega), if_pos (by simpa using hlow), hcode,
    Char.ofNat_toNat]
  cases bytes? w with
  | none => rfl
  | some p => rfl

/-- The ways to write a text between quotes: characters stand for themselves, or they are escaped by
a letter, by their number or by two halves of it. -/
inductive Spells : List Char → List Char → Prop where
  | nil : Spells [] []
  | plain {c : Char} {cs s : List Char} (hq : c ≠ '"') (hs : c ≠ '\\') (h : 0x20 ≤ c.toNat)
    (rest : Spells cs s) : Spells (c :: cs) (c :: s)
  | letter {x c : Char} {cs s : List Char} (h : escaped? x = some c) (rest : Spells cs s) :
    Spells ('\\' :: x :: cs) (c :: s)
  | unit {c : Char} {ds cs s : List Char} (h : IsUnit ds c.toNat) (rest : Spells cs s) :
    Spells ('\\' :: 'u' :: (ds ++ cs)) (c :: s)
  | units {c : Char} {ds es cs s : List Char} (h : 0x10000 ≤ c.toNat)
    (high : IsUnit ds (highUnit c)) (low : IsUnit es (lowUnit c)) (rest : Spells cs s) :
    Spells ('\\' :: 'u' :: (ds ++ '\\' :: 'u' :: (es ++ cs))) (c :: s)

theorem ascii_of_escaped? {x c : Char} (h : escaped? x = some c) :
    x ≠ 'u' ∧ x.toNat < 0x80 ∧ c.toNat < 0x80 := by
  unfold escaped? at h
  split at h <;> first
    | (obtain rfl := Option.some.inj h; decide)
    | cases h

theorem wire_append_of_ascii {ds : List Char} (h : ∀ c ∈ ds, c.toNat < 0x80) (cs : List Char) :
    wire (ds ++ cs) = ds ++ wire cs := by
  rw [wire_append, wire_eq_self h]

/-- However a text is written, it is read up to the closing quote, and its bytes come out. -/
theorem Spells.exists_readString? {cs s : List Char} (h : Spells cs s) : ∃ w : Written,
    bytes? w = some (Text.Utf8.encode s) ∧
    ∀ rest, readString? (wire cs ++ '"' :: rest) = some (w, rest) := by
  have hslash : ∀ cs, wire ('\\' :: cs) = '\\' :: wire cs := wire_cons_ascii (by decide)
  have hu : ∀ cs, wire ('u' :: cs) = 'u' :: wire cs := wire_cons_ascii (by decide)
  induction h with
  | nil => exact ⟨[], rfl, fun rest => readString?.eq_2 rest⟩
  | @plain c cs s hq hs hc _ ih =>
    obtain ⟨w, hw, hr⟩ := ih
    refine ⟨(wire [c]).map .octet ++ w, by rw [bytes?_octets, hw]; rfl, fun rest => ?_⟩
    rw [wire_cons, List.append_assoc, readString?_octets, hr]
    · rfl
    · rcases Nat.lt_or_ge c.toNat 0x80 with ha | ha
      · rw [wire_ascii ha]
        simp [hq, hs, hc]
      · intro x hx
        have hle := le_of_mem_wire ha hx
        refine ⟨?_, ?_, by omega⟩
        · rintro rfl
          exact absurd hle (by decide)
        · rintro rfl
          exact absurd hle (by decide)
  | @letter x c cs s he _ ih =>
    obtain ⟨w, hw, hr⟩ := ih
    obtain ⟨hne, hx, hc⟩ := ascii_of_escaped? he
    have hb := bytes?_octets c w
    rw [wire_ascii hc] at hb
    refine ⟨.octet c :: w, by rw [hw] at hb; exact hb, fun rest => ?_⟩
    rw [hslash, wire_cons_ascii hx, List.cons_append, List.cons_append,
      readString?_escaped hne he, hr]
    rfl
  | @unit c ds cs s hn _ ih =>
    obtain ⟨w, hw, hr⟩ := ih
    refine ⟨.unit c.toNat :: w, by rw [bytes?_unit, hw]; rfl, fun rest => ?_⟩
    rw [hslash, hu, wire_append_of_ascii hn.ascii, List.cons_append, List.cons_append,
      List.append_assoc, readString?_unit hn, hr]
    rfl
  | @units c ds es cs s hc high low _ ih =>
    obtain ⟨w, hw, hr⟩ := ih
    refine ⟨.unit (highUnit c) :: .unit (lowUnit c) :: w, by rw [bytes?_units hc, hw]; rfl,
      fun rest => ?_⟩
    rw [hslash, hu, wire_append_of_ascii high.ascii, hslash, hu, wire_append_of_ascii low.ascii,
      List.cons_append, List.cons_append, List.append_assoc, readString?_unit high,
      List.cons_append, List.cons_append, List.append_assoc, readString?_unit low, hr]
    rfl

/-- A character is escaped by a letter of its own, by its number or not at all. -/
theorem Spells.escapeChar {cs s : List Char} (rest : Spells cs s) (c : Char) :
    Spells (Json.escapeChar c ++ cs) (c :: s) := by
  unfold Json.escapeChar
  split
  · exact .letter rfl rest
  · exact .letter rfl rest
  · exact .letter rfl rest
  · exact .letter rfl rest
  · exact .letter rfl rest
  · exact .letter rfl rest
  · exact .letter rfl rest
  · split_ifs with h
    · have hzero : hexDigit? '0' = some 0 := by decide
      exact .unit (.digits hzero hzero (hexDigit?_hexChar _) (hexDigit?_hexChar _) (by omega)) rest
    · exact .plain (by assumption) (by assumption) (by omega) rest

theorem spells_escaped (cs : List Char) : Spells (cs.flatMap Json.escapeChar) cs := by
  induction cs with
  | nil => exact .nil
  | cons c cs ih => exact ih.escapeChar c

theorem wire_quote (s : String) :
    wire (quote s) = '"' :: (wire (s.toList.flatMap escapeChar) ++ ['"']) := by
  have hq : wire ['"'] = ['"'] := wire_ascii (by decide)
  rw [quote, wire_append, wire_cons, hq]
  rfl

theorem cons_tail_wire_quote (s : String) : '"' :: (wire (quote s)).tail = wire (quote s) := by
  rw [wire_quote, List.tail_cons]

/-- The parts that are read of a text in quotes, and stand for it. -/
def KeyReadsAs (key : String) (w : Written) : Prop :=
  text? w = some key ∧ ∀ rest, readString? ((wire (quote key)).tail ++ rest) = some (w, rest)

/-- A text in quotes is read to its closing quote, and its text is understood. -/
theorem exists_keyReadsAs (s : String) : ∃ w, KeyReadsAs s w := by
  obtain ⟨w, hw, hr⟩ := (spells_escaped s.toList).exists_readString?
  refine ⟨w, ?_, ?_⟩
  · rw [text?, hw]
    exact Text.Utf8.decodeString?_encodeString s
  · intro rest
    rw [wire_quote]
    simpa using hr rest

end PointSelect.Json
