import PointSelect.Number.Binary64

namespace PointSelect

/-- A point: the path of its dataset, its bin index, and its interval from `lower` up to but not
including `upper`. -/
structure Point where
  path : String
  index : Int64
  lower : Binary64
  upper : Binary64
  deriving DecidableEq, Inhabited

namespace Point

/-- The bins between consecutive edges, numbered from `first`. -/
def binsFrom (path : String) (first : Nat) : List Binary64 → List Point
  | a :: b :: edges => ⟨path, Int64.ofNat first, a, b⟩ :: binsFrom path (first + 1) (b :: edges)
  | _ => []

/-- The points of a binned dataset: one for each pair of neighbouring edges, numbered from 0. -/
def ofEdges (path : String) (edges : List Binary64) : List Point := binsFrom path 0 edges

end Point

end PointSelect
