import PointSelect.SelectionList
import Mathlib.Data.List.Range

namespace PointSelect.SelectionList

section

variable {α : Type} (list : SelectionList) (toPoint : α → Point) (points : List α)

/-- The places at which a list selects points: what is left when each point carries its place. -/
def places : List Nat := (list.select (fun x => toPoint x.1) points.zipIdx).map (·.2)

theorem accepts_iff {list : SelectionList} {q : Point} :
    list.accepts q = true ↔
      ∃ p ∈ list.patterns, p.matchesPath q.path = true ∧ p.acceptsPoint q = true := by
  simp [accepts, Pattern.accepts]

theorem accepts_append {a b c : SelectionList} (h : c.patterns = a.patterns ++ b.patterns)
    (q : Point) : c.accepts q = (a.accepts q || b.accepts q) := by
  rw [accepts, h, List.any_append]
  rfl

theorem accepts_of_same_members {a b : SelectionList} (h : ∀ p, p ∈ a.patterns ↔ p ∈ b.patterns)
    (q : Point) : a.accepts q = b.accepts q := by
  rw [Bool.eq_iff_iff, accepts_iff, accepts_iff]
  simp [h]

/-- A list accepts no point of which it does not accept the path already. -/
theorem matchesPath_of_accepts {list : SelectionList} {q : Point} (h : list.accepts q = true) :
    list.matchesPath q.path = true := by
  obtain ⟨p, hp, hpath, -⟩ := accepts_iff.mp h
  exact List.any_eq_true.mpr ⟨p, hp, hpath⟩

theorem mem_places_iff {list : SelectionList} {toPoint : α → Point} {points : List α} {i : Nat} :
    i ∈ list.places toPoint points ↔
      ∃ x, points[i]? = some x ∧ list.accepts (toPoint x) = true := by
  simp [places, select, List.mk_mem_zipIdx_iff_getElem?]

/-- Each place comes once, and the places rise. -/
theorem places_pairwise : (list.places toPoint points).Pairwise (· < ·) := by
  have hs : (list.places toPoint points).Sublist (points.zipIdx.map (·.2)) :=
    List.filter_sublist.map _
  rw [List.zipIdx_map_snd] at hs
  exact List.Pairwise.sublist hs List.pairwise_lt_range'

/-- What is selected is what stands at the places. -/
theorem select_eq_filterMap_places :
    list.select toPoint points = (list.places toPoint points).filterMap (points[·]?) := by
  have hfst : (list.select (fun x => toPoint x.1) points.zipIdx).map (·.1) =
      list.select toPoint points := by
    rw [select, select, ← List.zipIdx_map_fst 0 points, List.filter_map, List.zipIdx_map_fst]
    rfl
  rw [places, List.filterMap_map, ← hfst, ← List.filterMap_eq_map]
  apply List.filterMap_congr
  rintro ⟨x, i⟩ hm
  have hx : points[i]? = some x := List.mk_mem_zipIdx_iff_getElem?.mp (List.mem_filter.mp hm).1
  simp [hx]

theorem places_congr {a b : SelectionList} (h : ∀ q, a.accepts q = b.accepts q) :
    a.places toPoint points = b.places toPoint points := by
  simp [places, select, h]

theorem mem_places_append_iff {a b c : SelectionList} (h : c.patterns = a.patterns ++ b.patterns)
    {toPoint : α → Point} {points : List α} {i : Nat} :
    i ∈ c.places toPoint points ↔ i ∈ a.places toPoint points ∨ i ∈ b.places toPoint points := by
  simp only [mem_places_iff, accepts_append h, Bool.or_eq_true]
  constructor
  · rintro ⟨x, hx, ha | hb⟩
    · exact .inl ⟨x, hx, ha⟩
    · exact .inr ⟨x, hx, hb⟩
  · rintro (⟨x, hx, ha⟩ | ⟨x, hx, hb⟩)
    · exact ⟨x, hx, .inl ha⟩
    · exact ⟨x, hx, .inr hb⟩

/-- Further patterns drop no point. -/
theorem select_sublist_append {a b c : SelectionList} (h : c.patterns = a.patterns ++ b.patterns) :
    (a.select toPoint points).Sublist (c.select toPoint points) := by
  apply List.monotone_filter_right
  intro x hx
  rw [accepts_append h, hx, Bool.true_or]

theorem select_append (rest : List α) :
    list.select toPoint (points ++ rest) =
      list.select toPoint points ++ list.select toPoint rest := by
  simp [select]

theorem select_select :
    list.select toPoint (list.select toPoint points) = list.select toPoint points := by
  simp [select]

/-- Sorting out by the paths first loses nothing. -/
theorem select_filter_matchesPath :
    list.select toPoint (points.filter fun x => list.matchesPath (toPoint x).path) =
      list.select toPoint points := by
  rw [select, select, List.filter_filter]
  apply List.filter_congr
  intro x _
  rw [Bool.eq_iff_iff, Bool.and_eq_true]
  exact ⟨fun h => h.1, fun h => ⟨h, matchesPath_of_accepts h⟩⟩

/-- Points that a list judges alike are selected at the same places. -/
theorem places_congr_points {α β : Type} (list : SelectionList) (toPoint : α → Point)
    (toPoint' : β → Point) {points : List α} {points' : List β}
    (h : List.Forall₂ (fun x y => list.accepts (toPoint x) = list.accepts (toPoint' y))
      points points') :
    list.places toPoint points = list.places toPoint' points' := by
  have hfrom : ∀ first,
      (list.select (fun x => toPoint x.1) (points.zipIdx first)).map (·.2) =
        (list.select (fun x => toPoint' x.1) (points'.zipIdx first)).map (·.2) := by
    induction h with
    | nil => exact fun _ => rfl
    | @cons x y points points' hx _ ih =>
      intro first
      have hrest := ih (first + 1)
      rw [select, select] at hrest ⊢
      rw [List.zipIdx_cons, List.zipIdx_cons, List.filter_cons, List.filter_cons, hx]
      split_ifs
      · rw [List.map_cons, List.map_cons, hrest]
      · exact hrest
  exact hfrom 0

/-- Selectors that ask for no position see no edges. -/
theorem accepts_of_no_position {list : SelectionList}
    (h : ∀ p ∈ list.patterns, p.selector.coordinate? ≠ some .position) {x y : Point}
    (path : x.path = y.path) (index : x.index = y.index) : list.accepts x = list.accepts y := by
  have hpoint : ∀ p ∈ list.patterns, p.acceptsPoint x = p.acceptsPoint y := by
    intro p hp
    have hcoordinate := h p hp
    rw [Pattern.acceptsPoint, Pattern.acceptsPoint]
    cases hs : p.selector with
    | unrestricted => rfl
    | index target => cases target <;> simp only [Selector.accepts, index]
    | position target =>
      rw [hs] at hcoordinate
      exact absurd rfl hcoordinate
  rw [Bool.eq_iff_iff, accepts_iff, accepts_iff]
  constructor
  · rintro ⟨p, hp, hpath, ha⟩
    exact ⟨p, hp, path ▸ hpath, hpoint p hp ▸ ha⟩
  · rintro ⟨p, hp, hpath, ha⟩
    exact ⟨p, hp, path ▸ hpath, (hpoint p hp).symm ▸ ha⟩

end

/-- Each point is judged by itself, and it takes one single pattern that accepts both its path and
the rest of it. So order and number of the patterns mean nothing, further patterns only add points,
and the points keep their order. -/
theorem select_law (list : SelectionList) {α : Type} (toPoint : α → Point) (points : List α) :
    let selected := list.select toPoint points
    let places := list.places toPoint points
    (selected = places.filterMap (points[·]?) ∧ places.Pairwise (· < ·) ∧
      ∀ i, i ∈ places ↔ ∃ x, points[i]? = some x ∧ ∃ p ∈ list.patterns,
        p.matchesPath (toPoint x).path = true ∧ p.acceptsPoint (toPoint x) = true) ∧
    (∀ other : SelectionList, (∀ p, p ∈ other.patterns ↔ p ∈ list.patterns) →
      other.places toPoint points = places) ∧
    (∀ more both : SelectionList, both.patterns = list.patterns ++ more.patterns →
      (∀ i, i ∈ both.places toPoint points ↔ i ∈ places ∨ i ∈ more.places toPoint points) ∧
      selected.Sublist (both.select toPoint points)) ∧
    (∀ rest, list.select toPoint (points ++ rest) = selected ++ list.select toPoint rest) ∧
    list.select toPoint selected = selected ∧
    list.select toPoint (points.filter fun x => list.matchesPath (toPoint x).path) = selected := by
  intro selected places
  refine ⟨⟨select_eq_filterMap_places list toPoint points, places_pairwise list toPoint points, ?_⟩,
    ?_, ?_, select_append list toPoint points, select_select list toPoint points,
    select_filter_matchesPath list toPoint points⟩
  · intro i
    simp only [places, mem_places_iff, accepts_iff]
  · intro other h
    exact places_congr toPoint points (accepts_of_same_members h)
  · intro more both h
    exact ⟨fun i => mem_places_append_iff h, select_sublist_append toPoint points h⟩

end PointSelect.SelectionList
