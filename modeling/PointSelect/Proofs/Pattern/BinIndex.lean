import PointSelect.Proofs.Number.Nearest
import PointSelect.Proofs.Selector.Grammar
import PointSelect.Proofs.Pattern.Escape
import PointSelect.Proofs.Pattern.Rendering

namespace PointSelect

open Binary64 (IsNearest)

namespace Selector

variable (policy : IndexPolicy)

theorem exactIndex_two_pow : exactIndex policy (.ofInt (2 ^ 63)) =
    .error (.outOfRange (.ofInt (2 ^ 63))) := by
  cases policy <;> decide +kernel

theorem parse_writeInt (n : Int) : parse .index policy (String.ofList (writeInt n)) =
    (exactIndex policy (.ofInt n)).map fun i => .index (.exact i) :=
  parse_number (Binary64.read?_writeInt n) .index policy

end Selector

namespace Pattern

/-- A bin index behind a path is read as what its text alone is read as. -/
theorem compile_writeInt (o : MatchOptions) (n : Int) :
    ∃ path : PathExpr, path.text = "/foo" ∧
      compile o ("/foo#" ++ String.ofList (writeInt n)) =
        match Selector.parse .index o.indexPolicy (String.ofList (writeInt n)) with
        | .ok s => .ok ⟨some ⟨"/foo#" ++ String.ofList (writeInt n), path, s⟩, o⟩
        | .error fault => .error ⟨"/foo#" ++ String.ofList (writeInt n), .selector fault⟩ := by
  obtain ⟨path, hpath⟩ : ∃ path : PathExpr, path.text = "/foo" :=
    PathExpr.exists_text_eq_iff.mpr ⟨_, rfl⟩
  refine ⟨path, hpath, ?_⟩
  have hcut : Cut (escapeMarkers "/foo".toList ++ Coordinate.index.marker :: []) "/foo".toList
      (some (.index, [])) := by
    have haligned : Aligned "/foo".toList := aligned_of_unmarked (by simp [Coordinate.ofMarker?])
    exact @cut_escapeMarkers (some (.index, [])) _ haligned (.inr (by decide))
  have hstrip : stripChars (escapeMarkers "/foo".toList ++ Coordinate.index.marker :: []) =
      escapeMarkers "/foo".toList ++ Coordinate.index.marker :: [] := by
    decide +kernel
  have htext : "/foo#" ++ String.ofList (writeInt n) =
      String.ofList (escapeMarkers "/foo".toList ++ Coordinate.index.marker :: writeInt n) := by
    have hescape : escapeMarkers "/foo".toList = "/foo".toList := by decide
    apply String.toList_inj.mp
    rw [hescape]
    simp [Coordinate.marker]
  rw [htext]
  exact compile_replace hcut hstrip (fun c hc => .inl (isNumeral_of_mem_writeInt hc)) path hpath o

/-- A bin index is read as the number nearest to it under either policy, and its pattern accepts
the points with that index. That is the index itself just when it has 53 significant bits at most.
From the middle between the last number below 2⁶³ and 2⁶³ on there is no such index any more. -/
theorem bin_index_nearest (n : Int64) (o : MatchOptions) :
    let body := String.ofList (writeInt n.toInt)
    (n.toInt < 2 ^ 63 - 512 → ∃ m : Int64, IsNearest n.toInt m.toInt ∧
      (m = n ↔ ∃ e q, q ≤ 2 ^ 53 ∧ n.toInt.natAbs = 2 ^ e * q) ∧
      Selector.parse .index o.indexPolicy body = .ok (.index (.exact m)) ∧
      ∃ p, compile o ("/foo#" ++ body) = .ok p ∧ p.pathText? = some "/foo" ∧
        ∀ point, p.acceptsPoint point = true ↔ point.index = m) ∧
    (2 ^ 63 - 512 ≤ n.toInt →
      let fault := SelectorFault.outOfRange (.ofInt (2 ^ 63))
      Selector.parse .index o.indexPolicy body = .error fault ∧
      compile o ("/foo#" ++ body) = .error ⟨"/foo#" ++ body, .selector fault⟩) := by
  intro body
  have hmin := n.le_toInt
  have hmax := n.toInt_lt
  obtain ⟨path, hpath, hcompile⟩ := compile_writeInt o n.toInt
  have hparse := Selector.parse_writeInt o.indexPolicy n.toInt
  refine ⟨?_, ?_⟩
  · intro hn
    obtain ⟨hfinite, m, hm, hnear⟩ := Binary64.ofInt_nearest (n := n.toInt) (by omega)
    have hmem : InInt64 m := ⟨hnear.ge Binary64.isNumber_min hmin, hnear.lt_two_pow hn⟩
    obtain ⟨i, rfl, hindex⟩ := Selector.exactIndex_of_intCast o.indexPolicy hfinite hm hmem
    rw [hindex] at hparse
    rw [hparse] at hcompile
    refine ⟨i, hnear, ?_, hparse, _, hcompile, congrArg some hpath, ?_⟩
    · rw [← Int64.toInt_inj, hnear.eq_iff, Binary64.isNumber_intCast_iff (by omega)]
    · intro point
      exact decide_eq_true_iff
  · intro hn fault
    rw [Binary64.ofInt_eq_two_pow hn hmax.le, Selector.exactIndex_two_pow] at hparse
    rw [hparse] at hcompile
    exact ⟨hparse, hcompile⟩

/-- The first index above 2⁵³ is taken for its even neighbour, and the greatest one is refused. -/
theorem bin_index_inexact :
    (∀ policy, Selector.parse .index policy
      (String.ofList (writeInt (9007199254740993 : Int64).toInt)) =
        .ok (.index (.exact 9007199254740992))) ∧
    (∀ policy, Selector.parse .index policy (String.ofList (writeInt Int64.maxValue.toInt)) =
        .error (.outOfRange (.ofInt (2 ^ 63)))) ∧
    ¬∀ (n : Int64) (policy : IndexPolicy),
      Selector.parse .index policy (String.ofList (writeInt n.toInt)) = .ok (.index (.exact n)) := by
  have hneighbour : ∀ policy, Selector.parse .index policy
      (String.ofList (writeInt (9007199254740993 : Int64).toInt)) =
        .ok (.index (.exact 9007199254740992)) := by
    intro policy
    cases policy <;> decide +kernel
  refine ⟨hneighbour, ?_, ?_⟩
  · intro policy
    cases policy <;> decide +kernel
  · intro hexact
    have hsame := (hneighbour .truncate).symm.trans (hexact 9007199254740993 .truncate)
    exact absurd hsame (by decide)

end Pattern

end PointSelect
