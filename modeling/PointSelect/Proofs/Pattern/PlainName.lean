import PointSelect.Proofs.Pattern.Anchoring
import PointSelect.Proofs.Pattern.Escape
import PointSelect.Proofs.Regex.Literal

namespace PointSelect.Pattern

open Text (Trimmed isBlank)

/-- Behind a backslash no `#` opens a comment, and an escaped path has none elsewhere. -/
theorem beforeComment_escapeMarkers (fresh : Bool) (path : List Char) :
    beforeComment fresh (escapeMarkers path) = escapeMarkers path := by
  induction path generalizing fresh with
  | nil => rfl
  | cons c path ih =>
    cases hk : Coordinate.ofMarker? c with
    | none =>
      rw [escapeMarkers_other hk]
      refine beforeComment_cons_eq_self.mpr ⟨?_, ih _⟩
      rintro ⟨-, rfl⟩
      cases hk
    | some k =>
      obtain rfl := Coordinate.ofMarker?_eq_some_iff.mp hk
      rw [escapeMarkers_marker]
      have hrest := beforeComment_cons_eq_self.mpr
        ⟨fun h => Bool.false_ne_true h.1, ih (isBlank k.marker)⟩
      exact beforeComment_cons_eq_self.mpr ⟨fun h => absurd h.2 (by decide), hrest⟩

theorem trimmed_escapeMarkers {path : List Char} (h : Trimmed path) :
    Trimmed (escapeMarkers path) := by
  constructor
  · intro c hc
    cases path with
    | nil => cases hc
    | cons d path =>
      rw [escapeMarkers_cons] at hc
      split_ifs at hc
      · cases hc
        rfl
      · exact h.first c hc
  · intro c hc
    rw [getLast?_escapeMarkers] at hc
    exact h.last c hc

theorem stripComment_escape {path : String} (h : Trimmed path.toList) :
    stripComment (escape path) = escape path := by
  have hcomment := beforeComment_true_eq_self_iff.mp (beforeComment_escapeMarkers true path.toList)
  rw [stripComment_eq_self_iff, toList_escape]
  exact stripChars_eq_self_iff.mpr ⟨hcomment, trimmed_escapeMarkers h⟩

theorem endsEven_of_notMem {cs : List Char} (h : '\\' ∉ cs) : EndsEven cs := by
  have hrun : cs.reverse.takeWhile (· == '\\') = [] := by
    cases hr : cs.reverse with
    | nil => rfl
    | cons c ds =>
      have hc : c ∈ cs := List.mem_reverse.mp (by simp [hr])
      have hne : c ≠ '\\' := fun he => h (he ▸ hc)
      simp [hne]
  rw [EndsEven, hrun]
  exact Even.zero

theorem aligned_of_notMem {path : List Char} (h : '\\' ∉ path) : Aligned path := by
  rintro before k after rfl
  exact endsEven_of_notMem fun hm => h (List.mem_append_left _ hm)

theorem escape_ne_empty {path : String} (hne : path ≠ "") (haligned : Aligned path.toList) :
    escape path ≠ "" := by
  intro h
  have hsplit := split_escape haligned
  rw [h] at hsplit
  exact hne (congrArg PatternParts.path hsplit).symm

open Regex.Footprint (ofLiteral limit)

/-- A name whose characters mean themselves, with blanks between them or not, is a pattern when it
is written with its backslashes. It asks for no coordinate, and of a path that it begins with the
name or holds it. Only a name that is too long for the machine is none. -/
theorem escape_selects_name (o : MatchOptions) {name : String} (hne : name ≠ "")
    (hplain : ∀ c ∈ name.toList, c ∉ Regex.metaChars) (htrim : Trimmed name.toList) :
    (ofLiteral name ≤ limit → ∃ p, compile o (escape name) = .ok p ∧ p.pathText? = some name ∧
      p.selector = .unrestricted ∧ ∀ path : String,
        (p.matchesAtStart path = true ↔ name.toList <+: path.toList) ∧
        (p.matchesAnywhere path = true ↔ name.toList <:+: path.toList)) ∧
    (limit < ofLiteral name →
      compile o (escape name) = .error ⟨escape name, .path .tooLarge⟩) := by
  have haligned : Aligned name.toList := aligned_of_notMem fun hm => hplain _ hm (by decide)
  have hself := stripComment_escape htrim
  have hline := escape_ne_empty hne haligned
  have hsplit := split_escape haligned
  have hcompile := Regex.compile_plain hne hplain
  constructor
  · intro hsize
    rw [if_pos hsize] at hcompile
    have hpattern : compile o (escape name) =
        .ok ⟨some ⟨escape name, ⟨name, _, hcompile⟩, .unrestricted⟩, o⟩ :=
      compile_of_unmarked o hself hline hsplit
    refine ⟨_, hpattern, rfl, rfl, ?_⟩
    intro path
    constructor
    · rw [matchesAtStart_iff rfl, Regex.exists_matches_literal_zero_iff]
    · rw [matchesAnywhere_iff rfl, Regex.exists_matches_literal_iff]
  · intro hsize
    rw [if_neg (Nat.not_le.mpr hsize)] at hcompile
    apply compile_of_malformedPath o hself hline
    rwa [hsplit]

/-- Neither the blank before the number sign nor the number and the letter behind the markers make
this name anything else than itself. -/
theorem escape_selects_name_number :
    ∃ p, compile {} "/ä \\#1\\@c" = .ok p ∧ p.pathText? = some "/ä #1@c" ∧
      p.selector = .unrestricted ∧ p.matchesAtStart "/ä #1@c/d" = true ∧
      p.matchesAtStart "b/ä #1@c" = false ∧ p.matchesAnywhere "b/ä #1@c" = true := by
  have hescape : escape "/ä #1@c" = "/ä \\#1\\@c" := by decide +kernel
  have hplain : ∀ c ∈ "/ä #1@c".toList, c ∉ Regex.metaChars := by
    simp [Regex.metaChars]
  have htrim : Trimmed "/ä #1@c".toList := by
    constructor <;> simp [isBlank]
  have hsize : ofLiteral "/ä #1@c" ≤ limit := by
    have hoctets : "/ä #1@c".utf8ByteSize = 8 := by decide
    rw [ofLiteral, hoctets]
    decide
  have hlaw := escape_selects_name {} (by decide) hplain htrim
  obtain ⟨p, hcompile, hpath, hselector, hmatches⟩ := hlaw.1 hsize
  rw [hescape] at hcompile
  refine ⟨p, hcompile, hpath, hselector, ?_, ?_, ?_⟩
  · exact (hmatches _).1.mpr (by decide)
  · rw [← Bool.not_eq_true, (hmatches _).1]
    decide
  · exact (hmatches _).2.mpr (by decide)

end PointSelect.Pattern
