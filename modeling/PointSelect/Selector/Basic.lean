import PointSelect.Number.Layout
import PointSelect.Number.Integer
import PointSelect.Point

namespace PointSelect

/-- The coordinate of a point that a selector restricts. -/
inductive Coordinate where
  | index
  | position
  deriving DecidableEq

namespace Coordinate

/-- The character that opens a selector on this coordinate. -/
def marker : Coordinate → Char
  | index => '#'
  | position => '@'

def ofMarker? : Char → Option Coordinate
  | '#' => some index
  | '@' => some position
  | _ => none

end Coordinate

/-- The numbers from `lo` up to but not including `hi`. -/
structure Interval where
  lo : Binary64
  hi : Binary64
  deriving DecidableEq

namespace Interval

def unbounded : Interval := ⟨.negInfinity, .infinity⟩

def contains (r : Interval) (x : Binary64) : Bool := r.lo.le x && x.lt r.hi

/-- Whether a point's interval meets this one. A point that starts at `hi` still does. -/
def overlaps (r : Interval) (lower upper : Binary64) : Bool := r.lo.lt upper && lower.le r.hi

/-- A bound of a range; an empty text stands for `missing`. -/
def writeBound (missing x : Binary64) : List Char :=
  if x = missing then [] else x.writeChars .plain

/-- The bounds around a colon; the outermost infinities are left out. -/
def writeChars (r : Interval) : List Char :=
  writeBound .negInfinity r.lo ++ ':' :: writeBound .infinity r.hi

def write (r : Interval) : String := String.ofList r.writeChars

/-- The interval as reports show it. -/
def describe (r : Interval) : String :=
  "Interval \x7b lo: " ++ r.lo.write .report ++ ", hi: " ++ r.hi.write .report ++ " \x7d"

def equal (r s : Interval) : Bool := r.lo.equal s.lo && r.hi.equal s.hi

end Interval

/-- What a selector asks of its coordinate: one value or a range. -/
inductive Target (α : Type) where
  | exact (value : α)
  | range (interval : Interval)
  deriving DecidableEq

/-- A restriction of points by one of their coordinates. -/
inductive Selector where
  | unrestricted
  | index (target : Target Int64)
  | position (target : Target Binary64)
  deriving DecidableEq, Inhabited

namespace Selector

def coordinate? : Selector → Option Coordinate
  | unrestricted => none
  | index _ => some .index
  | position _ => some .position

/-- Whether a point meets the restriction. An index is compared with a range as the number nearest
to it. -/
def accepts (s : Selector) (p : Point) : Bool :=
  match s with
  | unrestricted => true
  | index (.exact n) => p.index = n
  | index (.range r) => r.contains (.ofInt p.index.toInt)
  | position (.exact x) => p.lower.le x && x.lt p.upper
  | position (.range r) => r.overlaps p.lower p.upper

/-- The selector as a pattern writes it. -/
def writeChars : Selector → List Char
  | unrestricted => []
  | index (.exact n) => '#' :: writeInt n.toInt
  | index (.range r) => '#' :: r.writeChars
  | position (.exact x) => '@' :: x.writeChars .plain
  | position (.range r) => '@' :: r.writeChars

def write (s : Selector) : String := String.ofList s.writeChars

/-- The selector as reports show it. -/
def describe : Selector → String
  | unrestricted => "None"
  | index (.exact n) => "Index(Exact(" ++ String.ofList (writeInt n.toInt) ++ "))"
  | index (.range r) => "Index(Range(" ++ r.describe ++ "))"
  | position (.exact x) => "Position(Exact(" ++ x.write .report ++ "))"
  | position (.range r) => "Position(Range(" ++ r.describe ++ "))"

/-- Equality of the numbers meant: NaN equals nothing and both zeros are one. -/
def equal : Selector → Selector → Bool
  | unrestricted, unrestricted => true
  | index (.exact m), index (.exact n) => m = n
  | index (.range r), index (.range s) => r.equal s
  | position (.exact x), position (.exact y) => x.equal y
  | position (.range r), position (.range s) => r.equal s
  | _, _ => false

end Selector

end PointSelect
