namespace PointSelect.Toml

/-- Reads two digits with a value from `least` to `greatest`. -/
def readTwoDigits? (least greatest : Nat) : List Char → Option (Nat × List Char)
  | a :: b :: cs =>
    let n := 10 * (a.toNat - '0'.toNat) + (b.toNat - '0'.toNat)
    if a.isDigit && b.isDigit && least ≤ n && n ≤ greatest then some (n, cs) else none
  | _ => none

/-- Drops a character that has to be there. -/
def dropMark? (mark : Char) : List Char → Option (List Char)
  | c :: cs => if c = mark then some cs else none
  | [] => none

def daysInMonth (year month : Nat) : Nat :=
  if month = 2 then
    if year % 4 = 0 ∧ (year % 100 ≠ 0 ∨ year % 400 = 0) then 29 else 28
  else if month ∈ [4, 6, 9, 11] then 30
  else 31

/-- Drops an hour and a minute. -/
def dropHourMinute? (cs : List Char) : Option (List Char) := do
  let (_, cs) ← readTwoDigits? 0 23 cs
  let (_, cs) ← readTwoDigits? 0 59 (← dropMark? ':' cs)
  return cs

/-- Drops a time of day: hour, minute, second and if there is one the fraction of the second. A
minute may have a leap second. -/
def dropTime? (cs : List Char) : Option (List Char) := do
  let (_, cs) ← readTwoDigits? 0 60 (← dropMark? ':' (← dropHourMinute? cs))
  match cs with
  | '.' :: c :: rest => return if c.isDigit then rest.dropWhile Char.isDigit else cs
  | _ => return cs

/-- Drops the distance from universal time, if there is one. -/
def dropOffset? : List Char → Option (List Char)
  | c :: cs =>
    if c = 'Z' ∨ c = 'z' then some cs
    else if c = '+' ∨ c = '-' then dropHourMinute? cs
    else some (c :: cs)
  | [] => some []

/-- A time of day begins with two digits and a colon. -/
def startsTime : List Char → Bool
  | a :: b :: ':' :: _ => a.isDigit && b.isDigit
  | _ => false

/-- A date begins with four digits and a hyphen. -/
def startsDate : List Char → Bool
  | a :: b :: c :: d :: '-' :: _ => [a, b, c, d].all Char.isDigit
  | _ => false

/-- Drops a date; after a `T` or a blank a time of day may follow, and then an offset. -/
def dropDate? (cs : List Char) : Option (List Char) := do
  let (century, cs) ← readTwoDigits? 0 99 cs
  let (year, cs) ← readTwoDigits? 0 99 cs
  let (month, cs) ← readTwoDigits? 1 12 (← dropMark? '-' cs)
  let (_, cs) ← readTwoDigits? 1 (daysInMonth (100 * century + year) month) (← dropMark? '-' cs)
  match cs with
  | c :: rest =>
    if (c = 'T' ∨ c = 't' ∨ c = ' ') ∧ startsTime rest then dropOffset? (← dropTime? rest)
    else return cs
  | [] => return []

end PointSelect.Toml
