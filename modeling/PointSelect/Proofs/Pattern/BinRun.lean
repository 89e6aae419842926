import PointSelect.Proofs.Pattern.Reading
import PointSelect.Proofs.Point.Bins

namespace PointSelect

/-- A point that neither starts nor ends nor is counted behind another one. -/
structure Point.Precedes (p q : Point) : Prop where
  index : p.index ≤ q.index
  lower : p.lower.le q.lower = true
  upper : p.upper.le q.upper = true

/-- Selectors of every form leave no point out between two that they accept. -/
theorem Selector.accepts_between {s : Selector} {p q r : Point} (hpq : p.Precedes q)
    (hqr : q.Precedes r) (hp : s.accepts p = true) (hr : s.accepts r = true) :
    s.accepts q = true := by
  cases s with
  | unrestricted => rfl
  | index t =>
    cases t with
    | exact n =>
      have hfirst : p.index = n := of_decide_eq_true hp
      have hlast : r.index = n := of_decide_eq_true hr
      have hsame : q.index = n :=
        Int64.le_antisymm (hlast ▸ hqr.index) (hfirst ▸ hpq.index)
      exact decide_eq_true hsame
    | range i => exact accepts_index_between hpq.index hqr.index hp hr
  | position t =>
    cases t with
    | exact x =>
      -- the later point bounds from above where the bins start, the earlier one where they end
      have hlower := (accepts_position_exact_iff.mp hr).1
      have hupper := (accepts_position_exact_iff.mp hp).2
      apply accepts_position_exact_iff.mpr
      exact ⟨Binary64.le_trans hqr.lower hlower, Binary64.lt_of_lt_of_le hupper hpq.upper⟩
    | range i =>
      have hlower := (accepts_position_range_iff.mp hr).2
      have hupper := (accepts_position_range_iff.mp hp).1
      apply accepts_position_range_iff.mpr
      exact ⟨Binary64.lt_of_lt_of_le hupper hpq.upper, Binary64.le_trans hqr.lower hlower⟩

namespace Point

variable {path : String} {edges : List Binary64}

theorem Ascending.le_of_lt (h : Ascending edges) {i j : Nat} (hij : i < j) {a b : Binary64}
    (ha : edges[i]? = some a) (hb : edges[j]? = some b) : a.le b = true := by
  obtain ⟨hi, rfl⟩ := List.getElem?_eq_some_iff.mp ha
  obtain ⟨hj, rfl⟩ := List.getElem?_eq_some_iff.mp hb
  exact List.pairwise_iff_getElem.mp h.pairwise i j hi hj hij

/-- Bins precede each other in the order of their places, so long as these are indices. -/
theorem precedes_of_lt (h : Ascending edges) (hlength : edges.length ≤ 2 ^ 63) {i j : Nat}
    (hij : i < j) {p q : Point} (hp : (ofEdges path edges)[i]? = some p)
    (hq : (ofEdges path edges)[j]? = some q) : p.Precedes q := by
  obtain ⟨a, b, ha, hb, rfl⟩ := getElem?_binsFrom_eq_some_iff.mp hp
  obtain ⟨c, d, hc, hd, rfl⟩ := getElem?_binsFrom_eq_some_iff.mp hq
  have hj := (List.getElem?_eq_some_iff.mp hc).1
  refine ⟨?_, h.le_of_lt hij ha hc, h.le_of_lt (Nat.succ_lt_succ hij) hb hd⟩
  rw [Int64.le_iff_toInt_le, Int64.toInt_ofNat_of_lt (by omega), Int64.toInt_ofNat_of_lt (by omega)]
  omega

/-- A selector that accepts two bins accepts the bins between them. -/
theorem accepts_bins_between (h : Ascending edges) (hlength : edges.length ≤ 2 ^ 63)
    {s : Selector} {i j k : Nat} (hij : i ≤ j) (hjk : j ≤ k) {p q r : Point}
    (hp : (ofEdges path edges)[i]? = some p) (hq : (ofEdges path edges)[j]? = some q)
    (hr : (ofEdges path edges)[k]? = some r) (haccepts : s.accepts p = true)
    (haccepts' : s.accepts r = true) : s.accepts q = true := by
  rcases Nat.lt_or_eq_of_le hij with hlt | rfl
  · rcases Nat.lt_or_eq_of_le hjk with hlt' | rfl
    · exact Selector.accepts_between (precedes_of_lt h hlength hlt hp hq)
        (precedes_of_lt h hlength hlt' hq hr) haccepts haccepts'
    · rwa [Option.some.inj (hq.symm.trans hr)]
  · rwa [Option.some.inj (hq.symm.trans hp)]

end Point

/-- Members of a list are chosen in one run if no member between two chosen ones is left out: from
the first one that is chosen up to the last. -/
theorem exists_run_of_between {α : Type} {xs : List α} {chosen : α → Bool}
    (between : ∀ {i j k : Nat} {x y z : α}, i ≤ j → j ≤ k → xs[i]? = some x → xs[j]? = some y →
      xs[k]? = some z → chosen x = true → chosen z = true → chosen y = true) :
    ∃ first stop : Nat, ∀ (i : Nat) (x : α), xs[i]? = some x →
      (chosen x = true ↔ first ≤ i ∧ i < stop) := by
  let Chosen (i : Nat) : Prop := ∃ x, xs[i]? = some x ∧ chosen x = true
  by_cases hany : ∃ i, Chosen i
  · classical
    obtain ⟨x, hx, hfirst⟩ := Nat.find_spec hany
    have hbound : ∀ i, Chosen i → i ≤ xs.length := by
      rintro i ⟨y, hy, -⟩
      exact (List.getElem?_eq_some_iff.mp hy).1.le
    obtain ⟨z, hz, hlast⟩ := Nat.findGreatest_spec (hbound _ (Nat.find_spec hany))
      (Nat.find_spec hany)
    refine ⟨Nat.find hany, Nat.findGreatest Chosen xs.length + 1, ?_⟩
    intro i y hy
    constructor
    · intro hchosen
      have hi : Chosen i := ⟨y, hy, hchosen⟩
      exact ⟨Nat.find_min' hany hi, Nat.lt_succ_of_le (Nat.le_findGreatest (hbound i hi) hi)⟩
    · rintro ⟨hfrom, hto⟩
      exact between hfrom (Nat.le_of_lt_succ hto) hx hy hz hfirst hlast
  · refine ⟨0, 0, ?_⟩
    intro i x hx
    constructor
    · exact fun hchosen => absurd ⟨i, x, hx, hchosen⟩ hany
    · exact fun hrun => absurd hrun.2 (Nat.not_lt_zero i)

/-- Of the bins between edges in order a pattern selects one run, or nothing: its selector accepts
the bins from one place up to another, and its path expression accepts either all of them or none.
The places of bins have to be indices for that, which no sequence in a memory is too long for. -/
theorem Pattern.selects_run_of_bins (p : Pattern) (path : String) {edges : List Binary64}
    (hedges : Point.Ascending edges) (hlength : edges.length ≤ 2 ^ 63) :
    let bins := Point.ofEdges path edges
    (∃ first stop : Nat, ∀ (i : Nat) (q : Point), bins[i]? = some q →
      (p.acceptsPoint q = true ↔ first ≤ i ∧ i < stop) ∧
      (p.accepts q = true ↔ p.matchesPath path = true ∧ first ≤ i ∧ i < stop)) ∧
    ∀ (i j k : Nat) (q r s : Point), i ≤ j → j ≤ k →
      bins[i]? = some q → bins[j]? = some r → bins[k]? = some s →
      p.accepts q = true → p.accepts s = true → p.accepts r = true := by
  intro bins
  have haccepts : ∀ (i : Nat) (q : Point), bins[i]? = some q →
      (p.accepts q = true ↔ p.matchesPath path = true ∧ p.acceptsPoint q = true) := by
    intro i q hq
    rw [Pattern.accepts, Point.path_of_mem_ofEdges (List.mem_of_getElem? hq), Bool.and_eq_true]
  refine ⟨?_, ?_⟩
  · obtain ⟨first, stop, hrun⟩ : ∃ first stop : Nat, ∀ (i : Nat) (q : Point), bins[i]? = some q →
        (p.acceptsPoint q = true ↔ first ≤ i ∧ i < stop) := by
      apply exists_run_of_between
      intro i j k q r s hij hjk hq hr hs hpoint hpoint'
      exact Point.accepts_bins_between hedges hlength hij hjk hq hr hs hpoint hpoint'
    refine ⟨first, stop, ?_⟩
    intro i q hq
    refine ⟨hrun i q hq, ?_⟩
    rw [haccepts i q hq, hrun i q hq]
  · intro i j k q r s hij hjk hq hr hs hfirst hlast
    obtain ⟨hpath, hpoint⟩ := (haccepts i q hq).mp hfirst
    obtain ⟨-, hpoint'⟩ := (haccepts k s hs).mp hlast
    apply (haccepts j r hr).mpr
    exact ⟨hpath, Point.accepts_bins_between hedges hlength hij hjk hq hr hs hpoint hpoint'⟩

/-- A bin without an inside, between two that a range of positions meets. -/
theorem Pattern.selects_run_of_bins_empty :
    ∃ p : Pattern, Pattern.compile {} "/foo@-1:1" = .ok p ∧
      p.accepts ⟨"/foo/a", 1, .signed false .zero, .signed false .zero⟩ = true := by
  let zero : Binary64 := .signed false .zero
  let path : PathExpr := ⟨"/foo", _, rfl⟩
  let p : Pattern :=
    ⟨some ⟨"/foo@-1:1", path, .position (.range ⟨.ofInt (-1), .ofInt 1⟩)⟩, {}⟩
  have hself : stripComment "/foo@-1:1" = "/foo@-1:1" := by decide +kernel
  have hsplit : split "/foo@-1:1" = ⟨path.text, some (.position, "-1:1"), ""⟩ := by decide +kernel
  have hparse : Selector.parse .position .truncate "-1:1" =
      .ok (.position (.range ⟨.ofInt (-1), .ofInt 1⟩)) := by decide +kernel
  have hcompile : compile {} "/foo@-1:1" = .ok p := by
    rw [compile_of_split {} hself hsplit, hparse]
  have hedges : Point.Ascending [.negInfinity, zero, zero, .ofInt 2] := by decide +kernel
  obtain ⟨-, hbetween⟩ := selects_run_of_bins p "/foo/a" hedges (by decide)
  refine ⟨p, hcompile, ?_⟩
  exact hbetween 0 1 2 _ _ _ (by decide) (by decide) rfl rfl rfl (by decide +kernel)
    (by decide +kernel)

end PointSelect
