import PointSelect.MatchOptions

namespace PointSelect

/-- How a selection list is read. -/
structure SelectionConfig where
  matching : MatchOptions := {}
  /-- Lines that are no patterns are left out instead of making the list fail. -/
  skipInvalid : Bool := false
  deriving DecidableEq, Inhabited

end PointSelect
