import PointSelect.Point

namespace PointSelect

/-- A row of a point table: a point, and the content of its bin if there is one. -/
structure PointRecord where
  point : Point
  value : Option Binary64
  deriving DecidableEq, Inhabited

end PointSelect
