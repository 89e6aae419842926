namespace PointSelect.Unicode

/-- A set of characters as ranges of code points in rising order, none touching the next. -/
structure CharSet where
  ranges : List (Nat × Nat)
  deriving DecidableEq

namespace CharSet

/-- Adds the range from `lo` to `hi` to ranges in rising order. -/
def insertRange (lo hi : Nat) : List (Nat × Nat) → List (Nat × Nat)
  | [] => [(lo, hi)]
  | (a, b) :: rs =>
    if hi + 1 < a then (lo, hi) :: (a, b) :: rs
    else if b + 1 < lo then (a, b) :: insertRange lo hi rs
    else insertRange (min lo a) (max hi b) rs

def ofRanges (rs : List (Nat × Nat)) : CharSet :=
  ⟨rs.foldl (fun acc r => insertRange r.1 r.2 acc) []⟩

def empty : CharSet := ⟨[]⟩

def single (c : Char) : CharSet := ⟨[(c.toNat, c.toNat)]⟩

def containsCode (s : CharSet) (n : Nat) : Bool := s.ranges.any fun r => r.1 ≤ n && n ≤ r.2

def contains (s : CharSet) (c : Char) : Bool := s.containsCode c.toNat

def union (s t : CharSet) : CharSet :=
  ⟨t.ranges.foldl (fun acc r => insertRange r.1 r.2 acc) s.ranges⟩

def inter (s t : CharSet) : CharSet :=
  ⟨s.ranges.flatMap fun a => t.ranges.filterMap fun b =>
    let lo := max a.1 b.1
    let hi := min a.2 b.2
    if lo ≤ hi then some (lo, hi) else none⟩

/-- The greatest code point. -/
def maxCode : Nat := 0x10FFFF

/-- The next code point of a character; the surrogates are left out. -/
def nextCode (n : Nat) : Nat := if n = 0xD7FF then 0xE000 else n + 1

/-- The code point before; the surrogates are left out. -/
def prevCode (n : Nat) : Nat := if n = 0xE000 then 0xD7FF else n - 1

/-- What lies between `lo`, the first code point not yet passed, and the ranges that follow. -/
def gaps (lo : Nat) : List (Nat × Nat) → List (Nat × Nat)
  | [] => if lo ≤ maxCode then [(lo, maxCode)] else []
  | (a, b) :: rs =>
    if lo < a then (lo, prevCode a) :: gaps (nextCode b) rs else gaps (nextCode b) rs

/-- The characters outside the set. -/
def compl (s : CharSet) : CharSet := ⟨gaps 0 s.ranges⟩

/-- The negation as a class writes it: the complement, and where one range ends at U+D7FF and the
next begins at U+E000 also these two characters. -/
def negate (s : CharSet) : CharSet :=
  let meets := s.ranges.any (·.2 == 0xD7FF) && s.ranges.any (·.1 == 0xE000)
  if meets then s.compl.union ⟨[(0xD7FF, 0xE000)]⟩ else s.compl

def diff (s t : CharSet) : CharSet := s.inter t.compl

def symmDiff (s t : CharSet) : CharSet := (s.union t).diff (s.inter t)

/-- The only character of the set, if it has exactly one. -/
def single? (s : CharSet) : Option Char :=
  match s.ranges with
  | [(a, b)] => if a = b then some (Char.ofNat a) else none
  | _ => none

def isAscii (s : CharSet) : Bool := s.ranges.all (·.2 < 0x80)

end CharSet

end PointSelect.Unicode
