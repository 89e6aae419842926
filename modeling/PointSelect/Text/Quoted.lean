import PointSelect.Unicode.Property

namespace PointSelect.Text

/-- The characters without a picture of their own: control and format characters, unassigned code
points and separators. -/
def invisible : Unicode.CharSet := (Unicode.category "c").union (Unicode.category "z")

/-- The marks that join the character before them. -/
def joining : Unicode.CharSet := Unicode.binary "grext"

/-- Whether a character can be told apart when it is shown. -/
def isPrintable (c : Char) : Bool :=
  if c.toNat < 0x80 then 0x20 ≤ c.toNat && c.toNat ≠ 0x7F
  else !invisible.contains c && !joining.contains c

/-- A character inside quotes. One that cannot be shown is written by its code point. -/
def escapeChar : Char → List Char
  | '"' => ['\\', '"']
  | '\\' => ['\\', '\\']
  | '\x00' => ['\\', '0']
  | '\t' => ['\\', 't']
  | '\n' => ['\\', 'n']
  | '\r' => ['\\', 'r']
  | c => if isPrintable c then [c] else ['\\', 'u', '{'] ++ Nat.toDigits 16 c.toNat ++ ['}']

/-- A text in quotes, as reports show it. -/
def quote (s : String) : String := String.ofList ('"' :: s.toList.flatMap escapeChar ++ ['"'])

end PointSelect.Text
