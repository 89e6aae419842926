import PointSelect.Proofs.Json.Text
import Mathlib.Data.List.Forall2
import Mathlib.Data.List.DropRight

namespace PointSelect.Json

/-- A text of blanks only. -/
def Blank (pad : List Char) : Prop := skipBlanks pad = []

/-- A text that does not go on with a number before it. -/
def Ends (rest : List Char) : Prop :=
  ∀ c ∈ rest.head?, c.isDigit = false ∧ c ≠ '.' ∧ c ≠ 'e' ∧ c ≠ 'E'

/-- A text that is read as this value, whatever follows it. -/
def ReadsAs (cs : List Char) (v : Value) : Prop :=
  ∀ fuel rest, 2 * cs.length ≤ fuel → Ends rest → readValue? fuel (cs ++ rest) = some (v, rest)

/-- A text that is read as a member of an object. -/
def MemberReadsAs (cs : List Char) (m : Written × Value) : Prop :=
  ∃ key gap value, cs = '"' :: key ++ ':' :: gap ++ value ∧
    (∀ rest, readString? (key ++ rest) = some (m.1, rest)) ∧ Blank gap ∧ ReadsAs value m.2

section

variable {pad pad' : List Char}

theorem skipBlanks_append (h : Blank pad) (cs : List Char) :
    skipBlanks (pad ++ cs) = skipBlanks cs := by
  rw [Blank, skipBlanks] at h
  rw [skipBlanks, List.dropWhile_append, h]
  rfl

theorem skipBlanks_skipBlanks (cs : List Char) : skipBlanks (skipBlanks cs) = skipBlanks cs :=
  List.dropWhile_idempotent _ cs

theorem Blank.mem (h : Blank pad) {c : Char} (hc : c ∈ pad) :
    c = ' ' ∨ c = '\n' ∨ c = '\t' ∨ c = '\r' := by
  rw [Blank, skipBlanks, List.dropWhile_eq_nil_iff] at h
  simpa [or_assoc] using h c hc

/-- Blanks in front make no difference. -/
theorem readValue?_congr (fuel : Nat) {cs ds : List Char} (h : skipBlanks cs = skipBlanks ds) :
    readValue? fuel cs = readValue? fuel ds := by
  cases fuel with
  | zero => rw [readValue?, readValue?]
  | succ fuel => rw [readValue?, readValue?, h]

theorem readItems?_congr (fuel : Nat) {cs ds : List Char} (h : skipBlanks cs = skipBlanks ds) :
    readItems? fuel cs = readItems? fuel ds := by
  cases fuel with
  | zero => rw [readItems?, readItems?]
  | succ fuel => rw [readItems?, readItems?, readValue?_congr fuel h]

theorem readMembers?_congr (fuel : Nat) {cs ds : List Char} (h : skipBlanks cs = skipBlanks ds) :
    readMembers? fuel cs = readMembers? fuel ds := by
  cases fuel with
  | zero => rw [readMembers?, readMembers?]
  | succ fuel => rw [readMembers?, readMembers?, h]

theorem ends_cons {c : Char} (h : c = ',' ∨ c = ']' ∨ c = '\x7d') (cs : List Char) :
    Ends (c :: cs) := by
  intro d hd
  obtain rfl : c = d := by simpa using hd
  rcases h with rfl | rfl | rfl <;> decide

theorem Ends.append (h : Blank pad) {cs : List Char} (hcs : Ends cs) : Ends (pad ++ cs) := by
  intro c hc
  cases pad with
  | nil => exact hcs c hc
  | cons d ds =>
    obtain rfl : d = c := by simpa using hc
    rcases h.mem List.mem_cons_self with rfl | rfl | rfl | rfl <;> decide

theorem ReadsAs.skipBlanks_ne {cs : List Char} {v : Value} (h : ReadsAs cs v) {rest : List Char}
    (hrest : Ends rest) (tail : List Char) : skipBlanks (cs ++ rest) ≠ ']' :: tail := by
  intro he
  have hr := h (2 * cs.length + 1) rest (by omega) hrest
  rw [readValue?, he] at hr
  cases hr

theorem joinWith_cons_cons (mark p q : List Char) (parts : List (List Char)) :
    Document.joinWith mark (p :: q :: parts) =
      p ++ (mark ++ Document.joinWith mark (q :: parts)) := by
  rw [← List.append_assoc]
  rfl

theorem blank_append (hpad : Blank pad) (hend : Blank pad') : Blank (pad ++ pad') := by
  rw [Blank, skipBlanks_append hpad]
  exact hend

/-- A part with blanks around it. -/
def Padded {α : Type} (P : List Char → α → Prop) (cs : List Char) (x : α) : Prop :=
  ∃ before part after, Blank before ∧ P part x ∧ Blank after ∧ cs = before ++ (part ++ after)

/-- The same blanks before each part and others after the last one are blanks around each part. -/
theorem exists_padded {α : Type} {P : List Char → α → Prop} (hpad : Blank pad) (hend : Blank pad')
    {parts : List (List Char)} {xs : List α} (h : List.Forall₂ P parts xs) (hne : parts ≠ []) :
    ∃ padded, padded ≠ [] ∧ List.Forall₂ (Padded P) padded xs ∧
      Document.joinWith [','] padded =
        pad ++ (Document.joinWith (',' :: pad) parts ++ pad') := by
  induction h with
  | nil => exact absurd rfl hne
  | @cons p x parts xs hp hps ih =>
    cases hps with
    | nil =>
      have hpadded : Padded P (pad ++ (p ++ pad')) x := ⟨pad, p, pad', hpad, hp, hend, rfl⟩
      exact ⟨[pad ++ (p ++ pad')], by simp, .cons hpadded .nil, rfl⟩
    | @cons q y parts xs hq hqs =>
      obtain ⟨padded, hne', hpadded, he⟩ := ih (by simp)
      obtain ⟨r, rs, rfl⟩ := List.exists_cons_of_ne_nil hne'
      have hpadded' : Padded P (pad ++ (p ++ [])) x := ⟨pad, p, [], hpad, hp, rfl, rfl⟩
      refine ⟨(pad ++ (p ++ [])) :: r :: rs, by simp, .cons hpadded' hpadded, ?_⟩
      rw [joinWith_cons_cons, joinWith_cons_cons, he]
      simp

/-- Items with commas between them are read up to the closing bracket. -/
theorem readItems?_joinWith {parts : List (List Char)} {vs : List Value}
    (h : List.Forall₂ (Padded ReadsAs) parts vs) (hne : parts ≠ []) (fuel : Nat)
    (rest : List Char) (hfuel : 2 * (Document.joinWith [','] parts).length < fuel) :
    readItems? fuel (Document.joinWith [','] parts ++ ']' :: rest) = some (vs, rest) := by
  have hcomma : ∀ cs, skipBlanks (',' :: cs) = ',' :: cs := fun cs => rfl
  have hbracket : ∀ cs, skipBlanks (']' :: cs) = ']' :: cs := fun cs => rfl
  induction h generalizing fuel with
  | nil => exact absurd rfl hne
  | @cons p v parts vs hp hps ih =>
    obtain ⟨fuel, rfl⟩ : ∃ f, fuel = f + 1 := ⟨fuel - 1, by omega⟩
    obtain ⟨before, part, after, hbefore, hpart, hafter, rfl⟩ := hp
    rw [readItems?]
    cases hps with
    | nil =>
      rw [Document.joinWith] at hfuel ⊢
      simp only [List.length_append] at hfuel
      simp only [List.append_assoc, readValue?_congr fuel (skipBlanks_append hbefore _)]
      rw [hpart fuel _ (by omega) (Ends.append hafter (ends_cons (by simp) rest))]
      simp only [Option.bind_eq_bind, Option.bind_some, skipBlanks_append hafter, hbracket]
      rfl
    | @cons q w parts vs hq hqs =>
      rw [joinWith_cons_cons] at hfuel ⊢
      simp only [List.length_append, List.length_cons, List.length_nil] at hfuel
      simp only [List.append_assoc, List.cons_append, List.nil_append,
        readValue?_congr fuel (skipBlanks_append hbefore _)]
      rw [hpart fuel _ (by omega) (Ends.append hafter (ends_cons (by simp) _))]
      simp only [Option.bind_eq_bind, Option.bind_some, skipBlanks_append hafter, hcomma]
      rw [ih (by simp) fuel (by omega)]
      rfl

/-- A text that is read as a member of an object, with blanks on both sides of its colon. -/
def NamedReadsAs (cs : List Char) (m : Written × Value) : Prop :=
  ∃ key gap gap' value, cs = '"' :: (key ++ (gap ++ ':' :: (gap' ++ value))) ∧
    (∀ rest, readString? (key ++ rest) = some (m.1, rest)) ∧ Blank gap ∧ Blank gap' ∧
    ReadsAs value m.2

theorem MemberReadsAs.named {cs : List Char} {m : Written × Value} (h : MemberReadsAs cs m) :
    NamedReadsAs cs m := by
  obtain ⟨key, gap, value, rfl, hkey, hgap, hvalue⟩ := h
  exact ⟨key, [], gap, value, by simp, hkey, rfl, hgap, hvalue⟩

/-- Members with commas between them are read up to the closing brace. -/
theorem readMembers?_joinWith {parts : List (List Char)} {ms : List (Written × Value)}
    (h : List.Forall₂ (Padded NamedReadsAs) parts ms) (hne : parts ≠ []) (fuel : Nat)
    (rest : List Char) (hfuel : 2 * (Document.joinWith [','] parts).length < fuel) :
    readMembers? fuel (Document.joinWith [','] parts ++ '\x7d' :: rest) = some (ms, rest) := by
  have hquote : ∀ cs, skipBlanks ('"' :: cs) = '"' :: cs := fun cs => rfl
  have hcolon : ∀ cs, skipBlanks (':' :: cs) = ':' :: cs := fun cs => rfl
  have hcomma : ∀ cs, skipBlanks (',' :: cs) = ',' :: cs := fun cs => rfl
  have hbrace : ∀ cs, skipBlanks ('\x7d' :: cs) = '\x7d' :: cs := fun cs => rfl
  induction h generalizing fuel with
  | nil => exact absurd rfl hne
  | @cons p m parts ms hp hps ih =>
    obtain ⟨fuel, rfl⟩ : ∃ f, fuel = f + 1 := ⟨fuel - 1, by omega⟩
    obtain ⟨before, part, after, hbefore, ⟨key, gap, gap', value, rfl, hkey, hgap, hgap', hvalue⟩,
      hafter, rfl⟩ := hp
    rw [readMembers?]
    cases hps with
    | nil =>
      rw [Document.joinWith] at hfuel ⊢
      simp only [List.length_append, List.length_cons] at hfuel
      simp only [List.append_assoc, List.cons_append, skipBlanks_append hbefore, hquote, hkey,
        Option.bind_eq_bind, Option.bind_some, skipBlanks_append hgap, hcolon,
        readValue?_congr fuel (skipBlanks_append hgap' _)]
      rw [hvalue fuel _ (by omega) (Ends.append hafter (ends_cons (by simp) rest))]
      simp only [Option.bind_some, skipBlanks_append hafter, hbrace]
      rfl
    | @cons q w parts ms hq hqs =>
      rw [joinWith_cons_cons] at hfuel ⊢
      simp only [List.length_append, List.length_cons, List.length_nil] at hfuel
      simp only [List.append_assoc, List.cons_append, List.nil_append, skipBlanks_append hbefore,
        hquote, hkey, Option.bind_eq_bind, Option.bind_some, skipBlanks_append hgap, hcolon,
        readValue?_congr fuel (skipBlanks_append hgap' _)]
      rw [hvalue fuel _ (by omega) (Ends.append hafter (ends_cons (by simp) _))]
      simp only [Option.bind_some, skipBlanks_append hafter, hcomma]
      rw [ih (by simp) fuel (by omega)]
      rfl

theorem readValue?_bracket (fuel : Nat) {cs : List Char} (h : ∀ rest, skipBlanks cs ≠ ']' :: rest) :
    readValue? (fuel + 1) ('[' :: cs) =
      (readItems? fuel cs).map fun p => (.array p.1, p.2) := by
  have hopen : skipBlanks ('[' :: cs) = '[' :: cs := rfl
  rw [← readItems?_congr fuel (skipBlanks_skipBlanks cs), readValue?]
  simp only [hopen]

theorem readValue?_brackets (fuel : Nat) {cs rest : List Char} (h : skipBlanks cs = ']' :: rest) :
    readValue? (fuel + 1) ('[' :: cs) = some (.array [], rest) := by
  have hopen : skipBlanks ('[' :: cs) = '[' :: cs := rfl
  rw [readValue?]
  simp only [hopen, h]

theorem readValue?_brace (fuel : Nat) {cs tail : List Char} (h : skipBlanks cs = '"' :: tail) :
    readValue? (fuel + 1) ('\x7b' :: cs) =
      (readMembers? fuel cs).map fun p => (.object p.1, p.2) := by
  have hopen : skipBlanks ('\x7b' :: cs) = '\x7b' :: cs := rfl
  rw [← readMembers?_congr fuel (skipBlanks_skipBlanks cs), readValue?]
  simp only [hopen, h]
  rfl

theorem readValue?_braces (fuel : Nat) {cs rest : List Char} (h : skipBlanks cs = '\x7d' :: rest) :
    readValue? (fuel + 1) ('\x7b' :: cs) = some (.object [], rest) := by
  have hopen : skipBlanks ('\x7b' :: cs) = '\x7b' :: cs := rfl
  rw [readValue?]
  simp only [hopen, h]

/-- Items between brackets; if there are none, blanks may stand between them. -/
theorem readsAs_items (hpad : Blank pad) {parts : List (List Char)} {vs : List Value}
    (h : List.Forall₂ (Padded ReadsAs) parts vs) :
    ReadsAs ('[' :: (pad ++ (Document.joinWith [','] parts ++ [']']))) (.array vs) := by
  intro fuel rest hfuel hrest
  simp only [List.length_append, List.length_cons, List.length_nil] at hfuel
  obtain ⟨fuel, rfl⟩ : ∃ f, fuel = f + 1 := ⟨fuel - 1, by omega⟩
  simp only [List.append_assoc, List.cons_append, List.nil_append]
  cases id h with
  | nil =>
    apply readValue?_brackets
    rw [skipBlanks_append hpad]
    rfl
  | @cons p v qs ws hp hps =>
    have hread := readItems?_joinWith h (by simp) fuel rest (by omega)
    rw [readValue?_bracket, readItems?_congr fuel (skipBlanks_append hpad _), hread]
    · rfl
    · intro tail
      obtain ⟨before, part, after, hbefore, hpart, hafter, rfl⟩ := hp
      rw [skipBlanks_append hpad]
      cases qs with
      | nil =>
        rw [Document.joinWith, List.append_assoc, skipBlanks_append hbefore, List.append_assoc]
        exact hpart.skipBlanks_ne (Ends.append hafter (ends_cons (by simp) rest)) tail
      | cons q qs =>
        rw [joinWith_cons_cons, List.append_assoc, List.append_assoc, skipBlanks_append hbefore,
          List.append_assoc]
        exact hpart.skipBlanks_ne (Ends.append hafter (ends_cons (by simp) _)) tail

/-- Members between braces; if there are none, blanks may stand between them. -/
theorem readsAs_members (hpad : Blank pad) {parts : List (List Char)} {ms : List (Written × Value)}
    (h : List.Forall₂ (Padded NamedReadsAs) parts ms) :
    ReadsAs ('\x7b' :: (pad ++ (Document.joinWith [','] parts ++ ['\x7d']))) (.object ms) := by
  intro fuel rest hfuel hrest
  simp only [List.length_append, List.length_cons, List.length_nil] at hfuel
  obtain ⟨fuel, rfl⟩ : ∃ f, fuel = f + 1 := ⟨fuel - 1, by omega⟩
  simp only [List.append_assoc, List.cons_append, List.nil_append]
  cases id h with
  | nil =>
    apply readValue?_braces
    rw [skipBlanks_append hpad]
    rfl
  | @cons p m qs ms hp hps =>
    have hread := readMembers?_joinWith h (by simp) fuel rest (by omega)
    have hhead : ∃ tail, skipBlanks (pad ++ (Document.joinWith [','] (p :: qs) ++ '\x7d' :: rest)) =
        '"' :: tail := by
      obtain ⟨before, part, after, hbefore, ⟨key, gap, gap', value, rfl, -⟩, hafter, rfl⟩ := hp
      rw [skipBlanks_append hpad]
      cases qs with
      | nil =>
        rw [Document.joinWith, List.append_assoc, skipBlanks_append hbefore]
        exact ⟨_, rfl⟩
      | cons q qs =>
        rw [joinWith_cons_cons, List.append_assoc, List.append_assoc, skipBlanks_append hbefore]
        exact ⟨_, rfl⟩
    obtain ⟨tail, htail⟩ := hhead
    rw [readValue?_brace fuel htail, readMembers?_congr fuel (skipBlanks_append hpad _), hread]
    rfl

/-- Items between brackets, with blanks before each of them and before the closing bracket. -/
theorem readsAs_array (hpad : Blank pad) (hend : Blank pad') {parts : List (List Char)}
    {vs : List Value} (h : List.Forall₂ ReadsAs parts vs) :
    ReadsAs ('[' :: pad ++ Document.joinWith (',' :: pad) parts ++ pad' ++ [']']) (.array vs) := by
  cases id h with
  | nil =>
    have hempty := readsAs_items (blank_append hpad hend) .nil
    simpa [Document.joinWith] using hempty
  | cons hp hps =>
    obtain ⟨padded, -, hpadded, he⟩ := exists_padded hpad hend h (by simp)
    have hitems := @readsAs_items [] rfl padded _ hpadded
    rw [he] at hitems
    simpa using hitems

/-- Members between braces, with blanks before each of them and before the closing brace. -/
theorem readsAs_object (hpad : Blank pad) (hend : Blank pad') {parts : List (List Char)}
    {ms : List (Written × Value)} (h : List.Forall₂ MemberReadsAs parts ms) :
    ReadsAs ('\x7b' :: pad ++ Document.joinWith (',' :: pad) parts ++ pad' ++ ['\x7d'])
      (.object ms) := by
  have hnamed : List.Forall₂ NamedReadsAs parts ms := h.imp fun _ _ => MemberReadsAs.named
  cases id h with
  | nil =>
    have hempty := readsAs_members (blank_append hpad hend) .nil
    simpa [Document.joinWith] using hempty
  | cons hp hps =>
    obtain ⟨padded, -, hpadded, he⟩ := exists_padded hpad hend hnamed (by simp)
    have hmembers := @readsAs_members [] rfl padded _ hpadded
    rw [he] at hmembers
    simpa using hmembers

end

/-- A value is all that a text may hold, blanks apart. -/
theorem read?_of_padded {cs : List Char} {v : Value} (h : Padded ReadsAs cs v) :
    read? cs = some v := by
  obtain ⟨before, part, after, hbefore, hpart, hafter, rfl⟩ := h
  have hends : Ends after := by
    have hnil : Ends [] := by simp [Ends]
    simpa using Ends.append hafter hnil
  have hblank : skipBlanks after = [] := hafter
  rw [read?, readValue?_congr _ (skipBlanks_append hbefore _),
    hpart _ after (by simp; omega) hends]
  simp [hblank]

theorem ReadsAs.read?_append {cs : List Char} {v : Value} (h : ReadsAs cs v) {tail : List Char}
    (htail : Blank tail) : read? (cs ++ tail) = some v :=
  read?_of_padded ⟨[], cs, tail, rfl, h, htail, rfl⟩

theorem readsAs_string {body : List Char} {w : Written}
    (h : ∀ rest, readString? (body ++ rest) = some (w, rest)) :
    ReadsAs ('"' :: body) (.string w) := by
  intro fuel rest hfuel _
  obtain ⟨fuel, rfl⟩ : ∃ f, fuel = f + 1 := ⟨fuel - 1, by simp at hfuel; omega⟩
  rw [List.cons_append, readValue?]
  change ((readString? (body ++ rest)).map fun p => (Value.string p.1, p.2)) = _
  rw [h]
  rfl

/-- A text in quotes is a value, too. -/
theorem KeyReadsAs.readsAs {s : String} {w : Written} (h : KeyReadsAs s w) :
    ReadsAs (wire (quote s)) (.string w) := by
  rw [← cons_tail_wire_quote]
  exact readsAs_string h.2

namespace Document

mutual

/-- The value that a document is to be read as, given what its atoms are read as. -/
def Means : Document → Value → Prop
  | atom cs, v => ReadsAs (wire cs) v
  | array items, v => ∃ vs, v = .array vs ∧ MeansItems items vs
  | object members, v => ∃ ms, v = .object ms ∧ MeansMembers members ms

def MeansItems : List Document → List Value → Prop
  | [], vs => vs = []
  | d :: ds, vs => ∃ w ws, vs = w :: ws ∧ Means d w ∧ MeansItems ds ws

def MeansMembers : List (String × Document) → List (Written × Value) → Prop
  | [], ms => ms = []
  | (k, d) :: ds, ms =>
    ∃ w v ws, ms = (w, v) :: ws ∧ KeyReadsAs k w ∧ Means d v ∧ MeansMembers ds ws

end

theorem means_text {s : String} {w : Written} (h : KeyReadsAs s w) : (text s).Means (.string w) :=
  h.readsAs

theorem wire_joinWith (mark : List Char) (parts : List (List Char)) :
    wire (joinWith mark parts) = joinWith (wire mark) (parts.map wire) := by
  induction parts with
  | nil => rfl
  | cons p parts ih =>
    cases parts with
    | nil => rfl
    | cons q parts =>
      rw [joinWith_cons_cons, wire_append, wire_append, ih]
      simp only [List.map_cons]
      rw [joinWith_cons_cons]

theorem wire_newline (depth : Nat) : wire (newline depth) = newline depth := by
  apply wire_eq_self
  intro c hc
  rcases List.mem_cons.mp hc with rfl | hs
  · decide
  · rw [List.eq_of_mem_replicate hs]
    decide

theorem blank_newline (depth : Nat) : Blank (newline depth) := by
  rw [Blank, skipBlanks, List.dropWhile_eq_nil_iff]
  intro c hc
  rcases List.mem_cons.mp hc with rfl | hs
  · rfl
  · rw [List.eq_of_mem_replicate hs]
    rfl

/-- A block is its parts with blanks before each of them and before the closing bracket. -/
theorem exists_wire_block {left right : Char} (hl : left.toNat < 0x80) (hr : right.toNat < 0x80)
    (depth : Nat) (parts : List (List Char)) : ∃ pad pad', Blank pad ∧ Blank pad' ∧
    wire (block left right depth parts) =
      left :: pad ++ joinWith (',' :: pad) (parts.map wire) ++ pad' ++ [right] := by
  have hleft : wire [left] = [left] := wire_ascii hl
  have hright : wire [right] = [right] := wire_ascii hr
  cases parts with
  | nil =>
    refine ⟨[], [], rfl, rfl, ?_⟩
    have hb : block left right depth [] = [left] ++ [right] := rfl
    rw [hb, wire_append, hleft, hright]
    rfl
  | cons p parts =>
    refine ⟨newline (depth + 1), newline depth, blank_newline _, blank_newline _, ?_⟩
    have hb : block left right depth (p :: parts) = [left] ++ newline (depth + 1) ++
        joinWith ([','] ++ newline (depth + 1)) (p :: parts) ++ newline depth ++ [right] := rfl
    have hcomma : wire [','] = [','] := wire_ascii (by decide)
    simp only [hb, wire_append, wire_joinWith, wire_newline, hleft, hright, hcomma]
    rfl

theorem memberReadsAs {key : String} {w : Written} {v : Value} {gap value : List Char}
    (hkey : KeyReadsAs key w) (hgap : Blank (wire gap)) (hvalue : ReadsAs (wire value) v) :
    MemberReadsAs (wire (quote key ++ ':' :: (gap ++ value))) (w, v) := by
  refine ⟨(wire (quote key)).tail, wire gap, wire value, ?_, hkey.2, hgap, hvalue⟩
  have hcolon : wire [':'] = [':'] := wire_ascii (by decide)
  rw [wire_append, wire_cons ':', wire_append, hcolon, ← cons_tail_wire_quote,
    List.append_assoc]
  rfl

theorem blank_wire_space : Blank (wire [' ']) := by
  rw [wire_ascii (by decide)]
  rfl

mutual

/-- A document that is written over several lines is read back. -/
theorem readsAs_pretty : ∀ {d : Document} {v : Value}, d.Means v → ∀ depth,
    ReadsAs (wire (d.pretty depth)) v
  | atom _, _, h, _ => h
  | array items, _, h, depth => by
    obtain ⟨vs, rfl, hvs⟩ := h
    obtain ⟨pad, pad', hpad, hpad', he⟩ := @exists_wire_block '[' ']' (by decide) (by decide)
      depth (prettyItems (depth + 1) items)
    rw [pretty, he]
    exact readsAs_array hpad hpad' (readsAs_prettyItems hvs (depth + 1))
  | object members, _, h, depth => by
    obtain ⟨ms, rfl, hms⟩ := h
    obtain ⟨pad, pad', hpad, hpad', he⟩ := @exists_wire_block '\x7b' '\x7d' (by decide) (by decide)
      depth (prettyMembers (depth + 1) members)
    rw [pretty, he]
    exact readsAs_object hpad hpad' (readsAs_prettyMembers hms (depth + 1))

theorem readsAs_prettyItems : ∀ {items : List Document} {vs : List Value}, MeansItems items vs →
    ∀ depth, List.Forall₂ ReadsAs ((prettyItems depth items).map wire) vs
  | [], _, h, _ => by
    subst h
    exact .nil
  | d :: ds, _, h, depth => by
    obtain ⟨w, ws, rfl, hd, hds⟩ := h
    rw [prettyItems, List.map_cons]
    exact .cons (readsAs_pretty hd depth) (readsAs_prettyItems hds depth)

theorem readsAs_prettyMembers : ∀ {members : List (String × Document)}
    {ms : List (Written × Value)}, MeansMembers members ms →
    ∀ depth, List.Forall₂ MemberReadsAs ((prettyMembers depth members).map wire) ms
  | [], _, h, _ => by
    subst h
    exact .nil
  | (key, d) :: ds, _, h, depth => by
    obtain ⟨w, v, ws, rfl, hkey, hd, hds⟩ := h
    have hm := memberReadsAs hkey blank_wire_space (readsAs_pretty hd depth)
    rw [prettyMembers, List.map_cons]
    exact .cons hm (readsAs_prettyMembers hds depth)

end

end Document

end PointSelect.Json
