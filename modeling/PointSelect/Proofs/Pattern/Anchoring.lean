import PointSelect.Proofs.Pattern.Reading
import PointSelect.Proofs.Regex.Run

namespace PointSelect

namespace Regex

/-- What a search for a match may find: one that begins first, whichever of those that begin there
it prefers, and nothing only if there is no match. -/
def Finds (cs : List Char) (e : Expr) : Option (Nat × Nat) → Prop
  | none => ∀ i j, ¬Matches cs e i j
  | some (i, j) => Matches cs e i j ∧ ∀ i' j', Matches cs e i' j' → i ≤ i'

variable {cs : List Char} {e : Expr}

theorem exists_finds (cs : List Char) (e : Expr) : ∃ found, Finds cs e found := by
  by_cases h : ∃ i j, Matches cs e i j
  · obtain ⟨i, j, hij⟩ := h
    obtain ⟨i, j, hfirst⟩ := exists_isLeftmost hij
    exact ⟨some (i, j), hfirst.found, hfirst.first⟩
  · exact ⟨none, fun i j hij => h ⟨i, j, hij⟩⟩

/-- No search misses a match at the start for one that begins later. -/
theorem Finds.atStart_iff {found : Option (Nat × Nat)} (h : Finds cs e found) :
    found.any (·.1 == 0) = true ↔ ∃ j, Matches cs e 0 j := by
  cases found with
  | none => simpa [Finds] using h 0
  | some ends =>
    obtain ⟨i, j⟩ := ends
    obtain ⟨hfound, hfirst⟩ := h
    rw [Option.any_some, beq_iff_eq]
    constructor
    · rintro rfl
      exact ⟨j, hfound⟩
    · rintro ⟨j', h'⟩
      exact Nat.le_zero.mp (hfirst 0 j' h')

theorem Finds.anywhere_iff {found : Option (Nat × Nat)} (h : Finds cs e found) :
    found.isSome = true ↔ ∃ i j, Matches cs e i j := by
  cases found with
  | none => simpa [Finds] using h
  | some ends => simpa using ⟨ends.1, ends.2, h.1⟩

theorem matches_choice_iff {es : List Expr} (hne : es ≠ []) {i j : Nat} :
    Matches cs (.choice es) i j ↔ ∃ e ∈ es, Matches cs e i j := by
  induction es with
  | nil => exact absurd rfl hne
  | cons e es ih =>
    cases es with
    | nil => simp [Expr.choice]
    | cons d ds =>
      rw [Expr.choice, matches_alt_iff, ih (List.cons_ne_nil d ds)]
      simp only [List.mem_cons, exists_eq_or_imp]
      · exact fun h => List.cons_ne_nil d ds h

end Regex

namespace Pattern

open Regex (Expr Finds Matches)

section

variable {p : Pattern} {rule : Rule} (h : p.rule = some rule)
include h

theorem matchesAtStart_iff (path : String) :
    p.matchesAtStart path = true ↔ ∃ j, Matches path.toList rule.path.expr 0 j := by
  rw [matchesAtStart, h]
  exact rule.path.expr.matchesAtStart_iff rule.path.ordered path

theorem matchesAnywhere_iff (path : String) :
    p.matchesAnywhere path = true ↔ ∃ i j, Matches path.toList rule.path.expr i j := by
  rw [matchesAnywhere, h]
  exact rule.path.expr.matchesAnywhere_iff rule.path.ordered path

end

/-- A pattern meets a path at the start where some match of its expression begins there, and
anywhere where some match begins anywhere. So both can be read off the first match of a search,
whichever match that prefers, and an expression with alternatives is anchored in each of them. -/
theorem matches_iff_exists_match {p : Pattern} {rule : Rule} (h : p.rule = some rule)
    (path : String) :
    let cs := path.toList
    let e := rule.path.expr
    (p.matchesAtStart path = true ↔ ∃ j, Matches cs e 0 j) ∧
    (p.matchesAnywhere path = true ↔ ∃ i j, Matches cs e i j) ∧
    (∃ found, Finds cs e found) ∧
    (∀ found, Finds cs e found →
      p.matchesAtStart path = found.any (·.1 == 0) ∧ p.matchesAnywhere path = found.isSome) ∧
    ∀ es, es ≠ [] → e = .choice es →
      (p.matchesAtStart path = true ↔ ∃ a ∈ es, ∃ j, Matches cs a 0 j) := by
  intro cs e
  have hstart : p.matchesAtStart path = true ↔ ∃ j, Matches cs e 0 j := matchesAtStart_iff h path
  have hanywhere : p.matchesAnywhere path = true ↔ ∃ i j, Matches cs e i j :=
    matchesAnywhere_iff h path
  refine ⟨hstart, hanywhere, Regex.exists_finds cs e, ?_, ?_⟩
  · intro found hfound
    constructor
    · rw [Bool.eq_iff_iff, hstart, hfound.atStart_iff]
    · rw [Bool.eq_iff_iff, hanywhere, hfound.anywhere_iff]
  · intro es hne he
    rw [hstart, he]
    simp only [Regex.matches_choice_iff hne]
    constructor
    · rintro ⟨j, a, ha, hm⟩
      exact ⟨a, ha, j, hm⟩
    · rintro ⟨a, ha, j, hm⟩
      exact ⟨j, a, ha, hm⟩

/-- An alternative that matches nothing at the end of every path, and would rather match nothing,
does not hide the other one at the start. -/
theorem matches_iff_exists_match_alternatives :
    ∃ p rule, compile {} "z??$|/b" = .ok p ∧ p.rule = some rule ∧
      p.matchesAtStart "/b/x" = true ∧ Matches "/b/x".toList rule.path.expr 4 4 ∧
      p.matchesAnywhere "/c/b" = true ∧ ¬∃ j, Matches "/c/b".toList rule.path.expr 0 j := by
  have hread : Regex.compile "z??$|/b" = .ok (.choice [
      .sequence [.repeated (.char 'z') 0 (some 1), .look .textEnd],
      .sequence [.char '/', .char 'b']]) := by decide +kernel
  let path : PathExpr := ⟨"z??$|/b", _, hread⟩
  let p : Pattern := ⟨some ⟨"z??$|/b", path, .unrestricted⟩, {}⟩
  have hcompile : compile {} "z??$|/b" = .ok p := by
    have hstrip : stripComment "z??$|/b" = "z??$|/b" := by decide +kernel
    have hsplit : split "z??$|/b" = ⟨"z??$|/b", none, ""⟩ := by decide +kernel
    exact compile_of_unmarked {} hstrip (by decide) hsplit
  have hend : Matches "/b/x".toList path.expr 4 4 :=
    .altLeft (.seq (.repeatedNone (by decide)) (.seq (.look (by decide) rfl) (.empty (by decide))))
  have hlater : Matches "/c/b".toList path.expr 2 4 :=
    .altRight (.seq (.char rfl) (.seq (.char rfl) (.empty (by decide))))
  have hfirst : Matches "/b/x".toList (.sequence [.char '/', .char 'b']) 0 2 :=
    .seq (.char rfl) (.seq (.char rfl) (.empty (by decide)))
  have hnot : p.matchesAtStart "/c/b" = false := rfl
  have hb := matches_iff_exists_match (p := p) rfl "/b/x"
  have hc := matches_iff_exists_match (p := p) rfl "/c/b"
  refine ⟨p, _, hcompile, rfl, ?_, hend, ?_, ?_⟩
  · exact (hb.2.2.2.2 _ (by simp) rfl).mpr ⟨_, List.mem_cons_of_mem _ List.mem_cons_self, 2, hfirst⟩
  · exact hc.2.1.mpr ⟨2, 4, hlater⟩
  · intro hm
    rw [hc.1.mpr hm] at hnot
    cases hnot

end Pattern

end PointSelect
