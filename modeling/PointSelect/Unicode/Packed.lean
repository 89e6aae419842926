import PointSelect.Unicode.CharSet

namespace PointSelect.Unicode

/-- A packed set under its names, each in lower case and without spaces and underscores. -/
abbrev NamedSet := List String × List String

namespace Packed

/-- The value of a packed digit: letters, then decimal digits, then `.` and `_`. -/
def digitValue (c : Char) : Nat :=
  if 'A' ≤ c && c ≤ 'Z' then c.toNat - 'A'.toNat
  else if 'a' ≤ c && c ≤ 'z' then c.toNat - 'a'.toNat + 26
  else if c.isDigit then c.toNat - '0'.toNat + 52
  else if c == '.' then 62
  else 63

/-- Numbers in base 32, the lowest digit first; 32 is added to every digit but the last. -/
def numbers (value scale : Nat) : List Char → List Nat
  | [] => []
  | c :: cs =>
    let d := digitValue c
    if d < 32 then (value + d * scale) :: numbers 0 1 cs
    else numbers (value + (d - 32) * scale) (scale * 32) cs

/-- Ranges as the distance to the end of the one before and the number of further code points. -/
def toRanges (next : Nat) : List Nat → List (Nat × Nat)
  | gap :: more :: rest =>
    (next + gap, next + gap + more) :: toRanges (next + gap + more + 1) rest
  | _ => []

def toNumbers (packed : List String) : List Nat := numbers 0 1 (String.join packed).toList

def toSet (packed : List String) : CharSet := ⟨toRanges 0 (toNumbers packed)⟩

/-- The set of that name, if the table has one. -/
def find? (table : List NamedSet) (name : String) : Option CharSet :=
  (table.find? (·.1.contains name)).map fun entry => toSet entry.2

end Packed

end PointSelect.Unicode
