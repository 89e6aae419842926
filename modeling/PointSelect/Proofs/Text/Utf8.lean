import PointSelect.Text.Utf8
import Mathlib.Tactic.SplitIfs

namespace PointSelect.Text

namespace Utf8

theorem toNat_toUInt8 {n : Nat} (h : n < 256) : n.toUInt8.toNat = n := by
  simpa using Nat.mod_eq_of_lt h

theorem charFrom?_eq {least n : Nat} {c : Char} (h : least ≤ n) (hc : c.toNat = n) :
    charFrom? least n = some c := by
  subst hc
  rw [charFrom?, if_pos ⟨h, c.valid⟩, Char.ofNat_toNat]

section

variable {c : Char} {u v w x : UInt8} {i j k l : Nat}

theorem continuation?_eq (hu : u.toNat = 0x80 + i) (hi : i < 64) : continuation? u = some i := by
  have hle : 0x80 ≤ u := UInt8.le_iff_toNat_le.mpr (by simp [hu])
  have hlt : u < 0xC0 := UInt8.lt_iff_toNat_lt.mpr (by simp [hu]; omega)
  simp [continuation?, hle, hlt, hu]

theorem decode?_one (hu : u.toNat = c.toNat) (hc : c.toNat < 0x80) (bs : Bytes) :
    decode? (u :: bs) = (decode? bs).map (c :: ·) := by
  have h80 : u < 0x80 := by simpa [UInt8.lt_iff_toNat_lt, hu] using hc
  rw [decode?.eq_def]
  dsimp only
  rw [if_pos h80, hu, Char.ofNat_toNat, Option.map_eq_bind]
  rfl

theorem decode?_two (hu : u.toNat = 0xC0 + i) (hv : v.toNat = 0x80 + j) (hi : i < 32)
    (hj : j < 64) (least : 0x80 ≤ i * 64 + j) (hc : c.toNat = i * 64 + j) (bs : Bytes) :
    decode? (u :: v :: bs) = (decode? bs).map (c :: ·) := by
  have h80 : ¬u < 0x80 := by simp [UInt8.lt_iff_toNat_lt, hu]; omega
  have hC0 : ¬u < 0xC0 := by simp [UInt8.lt_iff_toNat_lt, hu]
  have hE0 : u < 0xE0 := by simp [UInt8.lt_iff_toNat_lt, hu]; omega
  rw [decode?.eq_def]
  dsimp only
  rw [if_neg h80, if_neg hC0, if_pos hE0, hu, Nat.add_sub_cancel_left, continuation?_eq hv hj,
    Option.bind_eq_bind, Option.bind_some, charFrom?_eq least hc, Option.map_eq_bind]
  rfl

theorem decode?_three (hu : u.toNat = 0xE0 + i) (hv : v.toNat = 0x80 + j)
    (hw : w.toNat = 0x80 + k) (hi : i < 16) (hj : j < 64) (hk : k < 64)
    (least : 0x800 ≤ i * 4096 + j * 64 + k) (hc : c.toNat = i * 4096 + j * 64 + k)
    (bs : Bytes) : decode? (u :: v :: w :: bs) = (decode? bs).map (c :: ·) := by
  have h80 : ¬u < 0x80 := by simp [UInt8.lt_iff_toNat_lt, hu]; omega
  have hC0 : ¬u < 0xC0 := by simp [UInt8.lt_iff_toNat_lt, hu]; omega
  have hE0 : ¬u < 0xE0 := by simp [UInt8.lt_iff_toNat_lt, hu]
  have hF0 : u < 0xF0 := by simp [UInt8.lt_iff_toNat_lt, hu]; omega
  rw [decode?.eq_def]
  dsimp only
  rw [if_neg h80, if_neg hC0, if_neg hE0, if_pos hF0, hu, Nat.add_sub_cancel_left,
    continuation?_eq hv hj, continuation?_eq hw hk, Option.bind_eq_bind, Option.bind_some,
    Option.bind_eq_bind, Option.bind_some, charFrom?_eq least hc, Option.map_eq_bind]
  rfl

theorem decode?_four (hu : u.toNat = 0xF0 + i) (hv : v.toNat = 0x80 + j)
    (hw : w.toNat = 0x80 + k) (hx : x.toNat = 0x80 + l) (hi : i < 8) (hj : j < 64) (hk : k < 64)
    (hl : l < 64) (least : 0x10000 ≤ i * 262144 + j * 4096 + k * 64 + l)
    (hc : c.toNat = i * 262144 + j * 4096 + k * 64 + l) (bs : Bytes) :
    decode? (u :: v :: w :: x :: bs) = (decode? bs).map (c :: ·) := by
  have h80 : ¬u < 0x80 := by simp [UInt8.lt_iff_toNat_lt, hu]; omega
  have hC0 : ¬u < 0xC0 := by simp [UInt8.lt_iff_toNat_lt, hu]; omega
  have hE0 : ¬u < 0xE0 := by simp [UInt8.lt_iff_toNat_lt, hu]; omega
  have hF0 : ¬u < 0xF0 := by simp [UInt8.lt_iff_toNat_lt, hu]
  have hF8 : u < 0xF8 := by simp [UInt8.lt_iff_toNat_lt, hu]; omega
  rw [decode?.eq_def]
  dsimp only
  rw [if_neg h80, if_neg hC0, if_neg hE0, if_neg hF0, if_pos hF8, hu, Nat.add_sub_cancel_left,
    continuation?_eq hv hj, continuation?_eq hw hk, continuation?_eq hx hl, Option.bind_eq_bind,
    Option.bind_some, Option.bind_eq_bind, Option.bind_some, Option.bind_eq_bind, Option.bind_some,
    charFrom?_eq least hc, Option.map_eq_bind]
  rfl

end

theorem toNat_lt_of_char (c : Char) : c.toNat < 0x110000 := by
  rcases c.valid with h | h
  · exact Nat.lt_trans h (by decide)
  · exact h.2

/-- The bytes of a character are read as that character, and the rest after it. -/
theorem decode?_encodeChar_append (c : Char) (bs : Bytes) :
    decode? (encodeChar c ++ bs) = (decode? bs).map (c :: ·) := by
  have hlt := toNat_lt_of_char c
  unfold encodeChar
  generalize hn : c.toNat = n at hlt
  -- one case for each number of bytes
  simp only
  split_ifs with h1 h2 h3
  · have hu := toNat_toUInt8 (n := n) (by omega)
    exact decode?_one (hu.trans hn.symm) (by omega) bs
  · exact decode?_two (toNat_toUInt8 (by omega)) (toNat_toUInt8 (by omega)) (by omega) (by omega)
      (by omega) (by omega) bs
  · exact decode?_three (toNat_toUInt8 (by omega)) (toNat_toUInt8 (by omega))
      (toNat_toUInt8 (by omega)) (by omega) (by omega) (by omega) (by omega) (by omega) bs
  · exact decode?_four (toNat_toUInt8 (by omega)) (toNat_toUInt8 (by omega))
      (toNat_toUInt8 (by omega)) (toNat_toUInt8 (by omega)) (by omega) (by omega) (by omega)
      (by omega) (by omega) (by omega) bs

theorem encode_append (a b : List Char) : encode (a ++ b) = encode a ++ encode b :=
  List.flatMap_append

theorem decode?_encode (cs : List Char) : decode? (encode cs) = some cs := by
  induction cs with
  | nil => simp [encode, decode?]
  | cons c cs ih =>
    have h : encode (c :: cs) = encodeChar c ++ encode cs := rfl
    rw [h, decode?_encodeChar_append, ih]
    rfl

/-- An encoded text is read back. -/
theorem decodeString?_encodeString (s : String) : decodeString? (encodeString s) = some s := by
  rw [decodeString?, encodeString, decode?_encode, Option.map_some, String.ofList_toList]

end Utf8

end PointSelect.Text
