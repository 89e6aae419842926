import PointSelect.PathExpr
import PointSelect.Proofs.Regex.Matches
import Mathlib.Data.List.Infix

namespace PointSelect.Regex

/-- The characters that mean something else than themselves in a regular expression. -/
def metaChars : List Char :=
  ['\\', '.', '+', '*', '?', '(', ')', '|', '[', ']', '{', '}', '^', '$']

/-- Characters one after the other; a single one makes no sequence. -/
def Expr.literal : List Char → Expr
  | [c] => .char c
  | cs => .sequence (cs.map .char)

/-- The octets of characters in UTF-8. -/
def octets (cs : List Char) : List Nat := cs.flatMap fun c => Unicode.utf8Bytes c.toNat

theorem Expr.literal_cons_cons (c d : Char) (cs : List Char) :
    literal (c :: d :: cs) = .sequence ((c :: d :: cs).map .char) := rfl

theorem Expr.sequence_map_char_cons (c : Char) (cs : List Char) :
    sequence ((c :: cs).map .char) = .seq (.char c) (.sequence (cs.map .char)) := rfl

section

variable {cs : List Char} {i j : Nat}

theorem matches_sequence_char_iff {w : List Char} :
    Matches cs (.sequence (w.map .char)) i j ↔
      ∃ a b, cs = a ++ (w ++ b) ∧ a.length = i ∧ j = i + w.length := by
  induction w generalizing i with
  | nil =>
    rw [List.map_nil, Expr.sequence, List.foldr_nil, matches_empty_iff]
    constructor
    · rintro ⟨rfl, h⟩
      exact ⟨cs.take j, cs.drop j, (List.take_append_drop j cs).symm, List.length_take_of_le h, rfl⟩
    · rintro ⟨a, b, rfl, rfl, rfl⟩
      simp
  | cons c w ih =>
    rw [Expr.sequence_map_char_cons, matches_seq_iff]
    simp only [matches_char_iff, ih]
    constructor
    · rintro ⟨k, ⟨a, b, hcs, rfl, rfl⟩, a', b', hcs', ha', rfl⟩
      -- both ways to cut the text put the character in front of the rest
      have heq : (a ++ [c]) ++ b = a' ++ (w ++ b') := by
        rw [← hcs', hcs, List.append_assoc, List.singleton_append]
      obtain ⟨-, rfl⟩ := List.append_inj heq (by simp [ha'])
      exact ⟨a, b', by rw [hcs, List.cons_append], rfl, by rw [List.length_cons]; omega⟩
    · rintro ⟨a, b, rfl, rfl, rfl⟩
      refine ⟨a.length + 1, ⟨a, w ++ b, rfl, rfl, rfl⟩, a ++ [c], b, by simp, by simp, ?_⟩
      rw [List.length_cons]
      omega

/-- A literal matches itself wherever it stands, and nothing else. -/
theorem matches_literal_iff {w : List Char} : Matches cs (.literal w) i j ↔
    ∃ a b, cs = a ++ (w ++ b) ∧ a.length = i ∧ j = i + w.length := by
  match w with
  | [] => exact matches_sequence_char_iff
  | [c] => simpa [Expr.literal] using matches_char_iff
  | c :: d :: w => exact matches_sequence_char_iff

theorem exists_matches_literal_zero_iff {w : List Char} :
    (∃ j, Matches cs (.literal w) 0 j) ↔ w <+: cs := by
  simp only [matches_literal_iff]
  constructor
  · rintro ⟨j, a, b, rfl, ha, -⟩
    obtain rfl := List.eq_nil_of_length_eq_zero ha
    exact List.prefix_append w b
  · rintro ⟨b, rfl⟩
    exact ⟨_, [], b, rfl, rfl, rfl⟩

theorem exists_matches_literal_iff {w : List Char} :
    (∃ i j, Matches cs (.literal w) i j) ↔ w <:+: cs := by
  simp only [matches_literal_iff]
  constructor
  · rintro ⟨i, j, a, b, rfl, -, -⟩
    exact ⟨a, b, List.append_assoc a w b⟩
  · rintro ⟨a, b, rfl⟩
    exact ⟨_, _, a, b, List.append_assoc a w b, rfl, rfl⟩

end

namespace Parser

variable {p : Progress} {cs : List Char}

/-- Outside of verbose reading a character that means itself is one element. -/
theorem step_plain (hflags : p.flags = {}) {c : Char} (hc : c ∉ metaChars) (cs : List Char) :
    step p (c :: cs) = .ok ({ p with level := p.level.push (.char c) 0 }, cs) := by
  simp only [metaChars, List.mem_cons, List.not_mem_nil, or_false, not_or] at hc
  unfold step
  split <;> simp_all [readAtom, literalExpr]

/-- Plain characters become elements, the last one first. -/
theorem readAll_plain (hflags : p.flags = {}) (hcs : ∀ c ∈ cs, c ∉ metaChars) {fuel : Nat}
    (hfuel : cs.length < fuel) : readAll p fuel cs = .ok { p with level := { p.level with
      elements := (cs.map fun c => .expr (.char c) 0).reverse ++ p.level.elements } } := by
  have hskip : ∀ cs, skip p.flags.verbose cs = cs := by simp [skip, hflags]
  induction cs generalizing p fuel with
  | nil =>
    obtain ⟨fuel, rfl⟩ := Nat.exists_eq_add_one.mpr hfuel
    rw [readAll, hskip]
    rfl
  | cons c cs ih =>
    obtain ⟨fuel, rfl⟩ := Nat.exists_eq_add_one.mpr (Nat.zero_lt_of_lt hfuel)
    obtain ⟨hc, hcs⟩ := List.forall_mem_cons.mp hcs
    have hrest := ih (p := { p with level := p.level.push (.char c) 0 }) hflags hcs
      (Nat.lt_of_succ_lt_succ hfuel) hskip
    rw [readAll, hskip, List.map_cons, List.reverse_cons, List.append_assoc]
    simp only [step_plain hflags hc]
    exact hrest

theorem close_of_two_le {elements : List Element} (h : 2 ≤ elements.length) :
    Element.close elements = (.sequence (elements.reverse.filterMap Element.expr?),
      elements.foldl (fun d x => max d x.depth) 0 + 1) := by
  match elements with
  | x :: y :: rest => cases x <;> rfl

theorem foldl_depth_chars (cs : List Char) :
    (cs.map fun c => Element.expr (.char c) 0).foldl (fun d x => max d x.depth) 0 = 0 := by
  induction cs with
  | nil => rfl
  | cons c cs ih => exact ih

theorem close_chars (cs : List Char) : ∃ depth ≤ maxDepth,
    Element.close (cs.map fun c => .expr (.char c) 0).reverse = (.literal cs, depth) := by
  match cs with
  | [] => exact ⟨0, by decide, rfl⟩
  | [c] => exact ⟨0, by decide, rfl⟩
  | c :: d :: cs =>
    refine ⟨1, by decide, ?_⟩
    rw [close_of_two_le (by simp), List.reverse_reverse, ← List.map_reverse, foldl_depth_chars,
      Expr.literal_cons_cons, List.filterMap_map]
    have hexpr : Element.expr? ∘ (fun c => Element.expr (.char c) 0) = some ∘ Expr.char := rfl
    rw [hexpr, List.filterMap_eq_map]

theorem read_of_readAll {e : Expr} {depth : Nat} (h : readAll {} (cs.length + 1) cs = .ok p)
    (hgroups : p.groups = []) (hclose : p.level.close = (e, depth)) (hdepth : depth ≤ maxDepth) :
    read cs = .ok e := by
  simp only [read, h]
  change (if !p.groups.isEmpty then Except.error Fault.groupUnclosed else _) = Except.ok e
  rw [hgroups, hclose]
  exact if_pos hdepth

/-- A text that means itself is read as its characters, whatever they are. -/
theorem read_plain (hcs : ∀ c ∈ cs, c ∉ metaChars) : read cs = .ok (.literal cs) := by
  obtain ⟨depth, hdepth, hclose⟩ := close_chars cs
  have hread := readAll_plain (p := {}) rfl hcs (Nat.lt_succ_self _)
  rw [List.append_nil] at hread
  exact read_of_readAll hread rfl hclose hdepth

end Parser

namespace Shape

/-- Octets one after the other are one run, which no end of the sequence interrupts. -/
theorem alternatives_sequence_char (groups : Nat) {w : List Char} (hne : w ≠ []) :
    alternatives groups (.sequence (w.map .char)) = ([bytes (octets w)], groups) := by
  induction w with
  | nil => exact absurd rfl hne
  | cons c w ih =>
    cases w with
    | nil =>
      rw [octets, List.flatMap_singleton]
      rfl
    | cons d w =>
      rw [Expr.sequence_map_char_cons, alternatives]
      simp only [alternatives, ih (List.cons_ne_nil d w)]
      rfl

theorem ofExpr_literal {w : List Char} (hne : w ≠ []) : ofExpr (.literal w) = bytes (octets w) := by
  have hsequence : ofExpr (.sequence (w.map .char)) = bytes (octets w) := by
    rw [ofExpr, alternatives_sequence_char 0 hne]
    rfl
  match w with
  | [c] =>
    rw [octets, List.flatMap_singleton]
    rfl
  | c :: d :: w => exact hsequence

end Shape

theorem length_utf8Bytes (c : Char) : (Unicode.utf8Bytes c.toNat).length = c.utf8Size := by
  simp only [Unicode.utf8Bytes, Char.utf8Size, Char.toNat, UInt32.le_iff_toNat_le]
  generalize c.val.toNat = n
  change _ = if n ≤ 0x7F then 1 else if n ≤ 0x7FF then 2 else if n ≤ 0xFFFF then 3 else 4
  split_ifs <;> first | rfl | omega

theorem length_octets (cs : List Char) : (octets cs).length = (String.ofList cs).utf8ByteSize := by
  induction cs with
  | nil => rfl
  | cons c cs ih =>
    rw [octets, List.flatMap_cons, List.length_append, String.ofList_cons,
      String.utf8ByteSize_append, String.utf8ByteSize_singleton, length_utf8Bytes, ← ih, octets]

/-- The memory of the larger machine for a text that means itself: as much for each octet, and what
every machine has besides. -/
def Footprint.ofLiteral (text : String) : Nat := frame false + state * text.utf8ByteSize

theorem isWithinLimit_literal_iff {w : List Char} (hne : w ≠ []) :
    Footprint.isWithinLimit (.literal w) = true ↔
      Footprint.ofLiteral (.ofList w) ≤ Footprint.limit := by
  have hframe : Footprint.frame true ≤ Footprint.frame false := by decide
  rw [Footprint.isWithinLimit, Shape.ofExpr_literal hne, Footprint.ofLiteral, ← length_octets]
  simp only [List.all_cons, List.all_nil, Bool.and_true, Bool.and_eq_true, decide_eq_true_eq]
  simp only [Footprint.ofShape]
  omega

/-- A text that means itself is an expression for as long as its machine stays within the limit. -/
theorem compile_plain {text : String} (hne : text ≠ "")
    (hplain : ∀ c ∈ text.toList, c ∉ metaChars) :
    compile text = if Footprint.ofLiteral text ≤ Footprint.limit
      then .ok (.literal text.toList) else .error .tooLarge := by
  have hlimit := isWithinLimit_literal_iff (w := text.toList) (by simpa using hne)
  rw [String.ofList_toList] at hlimit
  simp only [compile, Parser.read_plain hplain]
  change (if _ then Except.ok _ else Except.error _) = _
  simp only [hlimit]

end PointSelect.Regex
