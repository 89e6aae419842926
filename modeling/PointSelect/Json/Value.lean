import PointSelect.Text.Utf8

namespace PointSelect.Json

/-- A number as it is written. -/
structure Numeral where
  negative : Bool
  whole : List Char
  /-- The digits after the point, if there is a point. -/
  fraction : Option (List Char)
  /-- The digits of the exponent, if there is one, and whether it is negative. -/
  exponent : Option (Bool × List Char)
  deriving DecidableEq

/-- A part of a string: a byte, or an escaped UTF-16 unit. -/
inductive Piece where
  | octet (c : Char)
  | unit (n : Nat)
  deriving DecidableEq

/-- A string as it is written. Only where it is used it has to be a text. -/
abbrev Written := List Piece

/-- A JSON text taken apart. Strings and numbers stay as they are written. -/
inductive Value where
  | null
  | bool (b : Bool)
  | number (n : Numeral)
  | string (s : Written)
  | array (items : List Value)
  | object (members : List (Written × Value))

/-- The bytes of a string, the UTF-16 units decoded; a surrogate needs its other half. -/
def bytes? : Written → Option Text.Bytes
  | [] => some []
  | .octet c :: rest => do return c.toNat.toUInt8 :: (← bytes? rest)
  | .unit n :: rest =>
    if n < 0xD800 || 0xDFFF < n then do
      return Text.Utf8.encodeChar (Char.ofNat n) ++ (← bytes? rest)
    else if 0xDC00 ≤ n then none
    else match rest with
      | .unit m :: rest =>
        if 0xDC00 ≤ m && m ≤ 0xDFFF then do
          let code := (n - 0xD800) * 1024 + (m - 0xDC00) + 0x10000
          return Text.Utf8.encodeChar (Char.ofNat code) ++ (← bytes? rest)
        else none
      | _ => none

/-- The text of a string. -/
def text? (s : Written) : Option String := do
  Text.Utf8.decodeString? (← bytes? s)

end PointSelect.Json
