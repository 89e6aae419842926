namespace PointSelect

/-- What becomes of an exact bin index that is not a whole number. -/
inductive IndexPolicy where
  /-- It is cut toward zero. -/
  | truncate
  /-- The pattern is refused. -/
  | reject
  deriving DecidableEq, Inhabited

/-- Where in a dataset path the path expression has to match. -/
inductive PathMode where
  /-- At the start. -/
  | anchored
  /-- Anywhere. -/
  | search
  deriving DecidableEq, Inhabited

/-- How one pattern is read and applied. -/
structure MatchOptions where
  indexPolicy : IndexPolicy := .truncate
  pathMode : PathMode := .anchored
  deriving DecidableEq, Inhabited

end PointSelect
