import PointSelect.Unicode.CharSet

namespace PointSelect.Unicode

/-- The UTF-8 form of a code point. -/
def utf8Bytes (n : Nat) : List Nat :=
  if n < 0x80 then [n]
  else if n < 0x800 then [0xC0 + n / 64, 0x80 + n % 64]
  else if n < 0x10000 then [0xE0 + n / 4096, 0x80 + n / 64 % 64, 0x80 + n % 64]
  else [0xF0 + n / 262144, 0x80 + n / 4096 % 64, 0x80 + n / 64 % 64, 0x80 + n % 64]

/-- A range of bytes at each place. -/
abbrev ByteRanges := List (Nat × Nat)

/-- The first place where a range of code points has to be cut so that either part is a product of
byte ranges: around the surrogates, where the number of bytes grows, and where a later byte does
not run through all its values. -/
def cut? (lo hi : Nat) : Option ((Nat × Nat) × (Nat × Nat)) :=
  if lo < 0xE000 && 0xD7FF < hi then some ((lo, 0xD7FF), (0xE000, hi))
  else match [0x7F, 0x7FF, 0xFFFF].find? fun m => lo ≤ m && m < hi with
    | some m => some ((lo, m), (m + 1, hi))
    | none =>
      if hi < 0x80 then none
      else [64, 4096, 262144].findSome? fun m =>
        if lo / m = hi / m then none
        else if lo % m ≠ 0 then
          let last := lo / m * m + (m - 1)
          some ((lo, last), (last + 1, hi))
        else if hi % m ≠ m - 1 then
          let first := hi / m * m
          some ((lo, first - 1), (first, hi))
        else none

/-- The range of code points as products of byte ranges, in rising order; there are no more cuts
than `fuel`. -/
def byteRangesOf : Nat → Nat → Nat → List ByteRanges
  | 0, _, _ => []
  | fuel + 1, lo, hi =>
    if hi < lo then []
    else match cut? lo hi with
      | some (a, b) => byteRangesOf fuel a.1 a.2 ++ byteRangesOf fuel b.1 b.2
      | none => [(utf8Bytes lo).zip (utf8Bytes hi)]

namespace CharSet

/-- The UTF-8 forms of the characters of a set as products of byte ranges. -/
def byteRanges (s : CharSet) : List ByteRanges := s.ranges.flatMap fun r => byteRangesOf 64 r.1 r.2

end CharSet

end PointSelect.Unicode
