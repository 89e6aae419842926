namespace PointSelect.Text

/-- The bytes of a file or of an encoded text. -/
abbrev Bytes := List UInt8

namespace Utf8

def encodeChar (c : Char) : Bytes :=
  let n := c.toNat
  if n < 0x80 then [n.toUInt8]
  else if n < 0x800 then [(0xC0 + n / 64).toUInt8, (0x80 + n % 64).toUInt8]
  else if n < 0x10000 then
    [(0xE0 + n / 4096).toUInt8, (0x80 + n / 64 % 64).toUInt8, (0x80 + n % 64).toUInt8]
  else
    [(0xF0 + n / 262144).toUInt8, (0x80 + n / 4096 % 64).toUInt8, (0x80 + n / 64 % 64).toUInt8,
      (0x80 + n % 64).toUInt8]

def encode (cs : List Char) : Bytes := cs.flatMap encodeChar

/-- The six bits of a byte that continues a character. -/
def continuation? (b : UInt8) : Option Nat :=
  if 0x80 ≤ b && b < 0xC0 then some (b.toNat - 0x80) else none

/-- The character of a code point if it needs as many bytes as it was written with. -/
def charFrom? (least n : Nat) : Option Char :=
  if least ≤ n ∧ n.isValidChar then some (Char.ofNat n) else none

/-- Reads text; bytes that no text is encoded with are refused. -/
def decode? : Bytes → Option (List Char)
  | [] => some []
  | a :: rest =>
    if a < 0x80 then do return Char.ofNat a.toNat :: (← decode? rest)
    else if a < 0xC0 then none
    else if a < 0xE0 then match rest with
      | b :: rest => do
        let n := (a.toNat - 0xC0) * 64 + (← continuation? b)
        return (← charFrom? 0x80 n) :: (← decode? rest)
      | _ => none
    else if a < 0xF0 then match rest with
      | b :: c :: rest => do
        let n := (a.toNat - 0xE0) * 4096 + (← continuation? b) * 64 + (← continuation? c)
        return (← charFrom? 0x800 n) :: (← decode? rest)
      | _ => none
    else if a < 0xF8 then match rest with
      | b :: c :: d :: rest => do
        let n := (a.toNat - 0xF0) * 262144 + (← continuation? b) * 4096 +
          (← continuation? c) * 64 + (← continuation? d)
        return (← charFrom? 0x10000 n) :: (← decode? rest)
      | _ => none
    else none

def encodeString (s : String) : Bytes := encode s.toList

def decodeString? (bs : Bytes) : Option String := (decode? bs).map String.ofList

end Utf8

/-- Bytes as the characters of the same numbers, for formats whose marks are ASCII. -/
def octets (bs : Bytes) : List Char := bs.map fun b => Char.ofNat b.toNat

/-- The text that such characters encode. -/
def ofOctets? (cs : List Char) : Option (List Char) :=
  Utf8.decode? (cs.map fun c => c.toNat.toUInt8)

end PointSelect.Text
