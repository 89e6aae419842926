import PointSelect.Proofs.Selector.IndexRange
import PointSelect.Proofs.Selector.PositionRange

namespace PointSelect

namespace Interval

variable {a b c x : Binary64}

theorem contains_self (a x : Binary64) : contains ⟨a, a⟩ x = false := by
  rw [← Bool.not_eq_true, contains_iff]
  exact fun h => Binary64.not_lt_of_le h.1 h.2

theorem contains_nan (r : Interval) : r.contains .nan = false := by
  rw [← Bool.not_eq_true, contains_iff]
  exact fun h => (Binary64.ne_nan_of_compareKeys h.1).2 rfl

/-- Whether a number is in an interval is counted once over the two parts. -/
theorem toNat_contains_split (hab : a.le b = true) (hbc : b.le c = true) (x : Binary64) :
    (contains ⟨a, c⟩ x).toNat = (contains ⟨a, b⟩ x).toNat + (contains ⟨b, c⟩ x).toNat := by
  by_cases hx : x = .nan
  · rw [hx, contains_nan, contains_nan, contains_nan]
    rfl
  · rw [contains_split hab hbc hx]
    cases hlow : contains ⟨a, b⟩ x with
    | false => rw [Bool.false_xor, Bool.toNat_false, Nat.zero_add]
    | true =>
      -- what is below the cut is not in the upper part
      have hhigh : contains ⟨b, c⟩ x = false := contains_eq_false_of_lt_lo (contains_iff.mp hlow).2
      rw [hhigh]
      rfl

end Interval

namespace Point

/-- Edges in order. NaN is at most nothing, so that each edge beside another one is a number. -/
def Ascending (edges : List Binary64) : Prop := edges.IsChain fun a b => a.le b = true

instance (edges : List Binary64) : Decidable (Ascending edges) :=
  inferInstanceAs (Decidable (edges.IsChain _))

section

variable {path : String} {first : Nat} {edges : List Binary64} {a b : Binary64}

@[simp] theorem binsFrom_nil : binsFrom path first [] = [] := rfl

@[simp] theorem binsFrom_singleton : binsFrom path first [a] = [] := rfl

@[simp] theorem binsFrom_cons_cons : binsFrom path first (a :: b :: edges) =
    ⟨path, Int64.ofNat first, a, b⟩ :: binsFrom path (first + 1) (b :: edges) := rfl

theorem length_binsFrom : (binsFrom path first edges).length = edges.length - 1 := by
  induction edges generalizing first with
  | nil => rfl
  | cons a edges ih =>
    cases edges with
    | nil => rfl
    | cons b edges =>
      rw [binsFrom_cons_cons, List.length_cons, ih]
      rfl

/-- A bin stands between two neighbouring edges, and its number is their place. -/
theorem getElem?_binsFrom_eq_some_iff {i : Nat} {p : Point} :
    (binsFrom path first edges)[i]? = some p ↔ ∃ a b, edges[i]? = some a ∧
      edges[i + 1]? = some b ∧ p = ⟨path, Int64.ofNat (first + i), a, b⟩ := by
  induction edges generalizing first i with
  | nil => simp
  | cons c edges ih =>
    cases edges with
    | nil => simp
    | cons d edges =>
      rw [binsFrom_cons_cons]
      cases i with
      | zero => simp [eq_comm]
      | succ i =>
        simp only [List.getElem?_cons_succ, ih, Nat.add_assoc, Nat.add_comm 1]

theorem path_of_mem_ofEdges {p : Point} (h : p ∈ ofEdges path edges) : p.path = path := by
  obtain ⟨i, hi⟩ := List.mem_iff_getElem?.mp h
  obtain ⟨a, b, -, -, rfl⟩ := getElem?_binsFrom_eq_some_iff.mp hi
  rfl

/-- Edges that are not neighbours are in order too. -/
theorem Ascending.pairwise (h : Ascending edges) : edges.Pairwise fun a b => a.le b = true := by
  let : Trans (fun a b : Binary64 => a.le b = true) (fun a b => a.le b = true)
      (fun a b => a.le b = true) := ⟨Binary64.le_trans⟩
  exact List.IsChain.pairwise h

theorem Ascending.le_getLast (h : Ascending (a :: edges)) (ha : a ≠ .nan) :
    a.le ((a :: edges).getLast (List.cons_ne_nil a edges)) = true := by
  rcases List.mem_cons.mp (List.getLast_mem (List.cons_ne_nil a edges)) with heq | hmem
  · rw [heq]
    exact Binary64.le_refl ha
  · exact List.rel_of_pairwise_cons h.pairwise hmem

/-- A number is in one bin if it lies between the outer edges, and else in none. -/
theorem countP_binsFrom (path : String) (first : Nat) (h : Ascending (a :: edges))
    (x : Binary64) :
    (binsFrom path first (a :: edges)).countP (Selector.position (.exact x)).accepts =
      (Interval.contains ⟨a, (a :: edges).getLast (List.cons_ne_nil a edges)⟩ x).toNat := by
  induction edges generalizing a first with
  | nil =>
    rw [List.getLast_singleton, Interval.contains_self]
    rfl
  | cons b edges ih =>
    obtain ⟨hab, hrest⟩ := List.isChain_cons_cons.mp h
    have hbin : (Selector.position (.exact x)).accepts ⟨path, Int64.ofNat first, a, b⟩ =
        Interval.contains ⟨a, b⟩ x := rfl
    have hlast := Ascending.le_getLast hrest (Binary64.ne_nan_of_compareKeys hab).2
    rw [binsFrom_cons_cons, List.countP_cons, ih (first + 1) hrest, hbin, List.getLast_cons_cons,
      Interval.toNat_contains_split hab hlast x, Nat.add_comm]
    cases Interval.contains ⟨a, b⟩ x <;> rfl

end

/-- Bins that are made from edges follow each other along the axis, numbered from 0: each ends where
the next one starts. A number is in exactly one of them if it is at least the first edge and below
the last one, and in none of them otherwise. -/
theorem ofEdges_partition (path : String) (edges : List Binary64) :
    let bins := ofEdges path edges
    bins.length = edges.length - 1 ∧
    (∀ (i : Nat) (p : Point), bins[i]? = some p →
      p.path = path ∧ (i < 2 ^ 63 → p.index.toInt = i) ∧
      edges[i]? = some p.lower ∧ edges[i + 1]? = some p.upper) ∧
    (∀ (i : Nat) (p q : Point), bins[i]? = some p → bins[i + 1]? = some q → p.upper = q.lower) ∧
    (Ascending edges → ∀ a b, edges.head? = some a → edges.getLast? = some b → ∀ x : Binary64,
      bins.countP (Selector.position (.exact x)).accepts =
        if a.le x && x.lt b then 1 else 0) := by
  intro bins
  have hbin : ∀ (i : Nat) (p : Point), bins[i]? = some p →
      p.path = path ∧ (i < 2 ^ 63 → p.index.toInt = i) ∧
      edges[i]? = some p.lower ∧ edges[i + 1]? = some p.upper := by
    intro i p hp
    obtain ⟨a, b, ha, hb, rfl⟩ := getElem?_binsFrom_eq_some_iff.mp hp
    refine ⟨rfl, ?_, ha, hb⟩
    intro hi
    rw [Nat.zero_add]
    exact Int64.toInt_ofNat_of_lt hi
  refine ⟨length_binsFrom, hbin, ?_, ?_⟩
  · intro i p q hp hq
    obtain ⟨-, -, -, hupper⟩ := hbin i p hp
    obtain ⟨-, -, hlower, -⟩ := hbin (i + 1) q hq
    exact Option.some.inj (hupper.symm.trans hlower)
  · intro hedges a b ha hb x
    obtain ⟨rest, rfl⟩ := List.head?_eq_some_iff.mp ha
    rw [List.getLast?_eq_some_getLast (List.cons_ne_nil a rest)] at hb
    have hcount := countP_binsFrom path 0 hedges x
    rw [Option.some.inj hb, Interval.contains] at hcount
    refine hcount.trans ?_
    cases a.le x && x.lt b <;> rfl

/-- Edges of which some are equal, both zeros among them, and the outer ones infinite: a zero is in
the last bin that starts with one, and the upper infinity in none. -/
theorem ofEdges_partition_repeated :
    let zero : Binary64 := .signed false .zero
    let bins := ofEdges "/foo" [.negInfinity, .signed true .zero, zero, zero, .ofInt 2, .infinity]
    bins.countP (Selector.position (.exact zero)).accepts = 1 ∧
      bins.countP (Selector.position (.exact .infinity)).accepts = 0 := by
  intro zero bins
  obtain ⟨-, -, -, hcount⟩ := ofEdges_partition "/foo"
    [.negInfinity, .signed true .zero, zero, zero, .ofInt 2, .infinity]
  have hedges : Ascending [.negInfinity, .signed true .zero, zero, zero, .ofInt 2, .infinity] := by
    decide +kernel
  have hexact := hcount hedges .negInfinity .infinity rfl rfl
  have hinside : (Binary64.negInfinity.le zero && zero.lt .infinity) = true := by decide +kernel
  have houtside :
      ¬(Binary64.negInfinity.le .infinity && Binary64.infinity.lt .infinity) = true := by
    decide +kernel
  exact ⟨(hexact zero).trans (if_pos hinside), (hexact .infinity).trans (if_neg houtside)⟩

end Point

end PointSelect
