import PointSelect.Regex.Expr
import PointSelect.Unicode.Utf8Ranges

namespace PointSelect.Regex

open Unicode (CharSet)

/-- An expression in the simplified form that its machine is built from. -/
inductive Shape where
  | empty
  | bytes (bs : List Nat)
  | set (s : CharSet)
  | look (l : Look)
  | repeated (s : Shape) (min : Nat) (max : Option Nat)
  /-- Groups are numbered, so that no two are equal. -/
  | group (index : Nat) (s : Shape)
  | concat (ss : List Shape)
  | alternation (ss : List Shape)
  deriving BEq

namespace Shape

/-- A set of one character is that character. -/
def ofSet (s : CharSet) : Shape :=
  match s.single? with
  | some c => bytes (Unicode.utf8Bytes c.toNat)
  | none => set s

/-- The parts that a concatenation takes from one of its members. -/
def parts : Shape → List Shape
  | empty => []
  | concat ss => ss
  | s => [s]

/-- Joins neighbouring runs of bytes. -/
def joinBytes : List Shape → List Shape
  | [] => []
  | s :: ss => match s, joinBytes ss with
    | bytes a, bytes b :: rest => bytes (a ++ b) :: rest
    | s, rest => s :: rest

def ofConcat (ss : List Shape) : Shape :=
  match joinBytes (ss.flatMap parts) with
  | [] => empty
  | [s] => s
  | ss => concat ss

/-- The characters of a member that matches exactly one. -/
def charSet? : Shape → Option CharSet
  | set s => some s
  | bytes bs => match bs with
    | [a] => some ⟨[(a, a)]⟩
    | [a, b] => if 0xC0 ≤ a then
        let n := (a - 0xC0) * 64 + (b - 0x80)
        some ⟨[(n, n)]⟩
      else none
    | [a, b, c] => if 0xE0 ≤ a then
        let n := (a - 0xE0) * 4096 + (b - 0x80) * 64 + (c - 0x80)
        some ⟨[(n, n)]⟩
      else none
    | [a, b, c, d] => if 0xF0 ≤ a then
        let n := (a - 0xF0) * 262144 + (b - 0x80) * 4096 + (c - 0x80) * 64 + (d - 0x80)
        some ⟨[(n, n)]⟩
      else none
    | _ => none
  | _ => none

/-- The parts that all members begin with. -/
def commonParts : List Shape → List Shape
  | concat a :: rest => rest.foldl (fun common s => match s with
    | concat b => ((common.zip b).takeWhile fun p => p.1 == p.2).map (·.1)
    | _ => []) a
  | _ => []

/-- A choice of several: one set where each matches a single character, and with what all begin
with in front. No choice holds more than `fuel` choices in one another. -/
def ofAlternation : Nat → List Shape → Shape
  | 0, ss => alternation ss
  | fuel + 1, ss =>
    let ss := ss.flatMap fun s => match s with
      | alternation inner => inner
      | s => [s]
    match ss with
    | [s] => s
    | _ => match ss.mapM charSet? with
      | some sets => ofSet (sets.foldl CharSet.union .empty)
      | none => match commonParts ss with
        | [] => alternation ss
        | common => ofConcat (common ++ [ofAlternation fuel (ss.map fun s => match s with
          | concat a => ofConcat (a.drop common.length)
          | s => s)])

/-- The least number of bytes that a match has, unless nothing matches. -/
def minLength : Shape → Option Nat
  | empty => some 0
  | bytes bs => some bs.length
  | set s => s.ranges.head?.map fun r => (Unicode.utf8Bytes r.1).length
  | look _ => some 0
  | repeated s min _ => if min = 0 then some 0 else s.minLength.map (min * ·)
  | group _ s => s.minLength
  | concat ss => sum ss
  | alternation ss => least ss
where
  sum : List Shape → Option Nat
    | [] => some 0
    | s :: ss => do return (← s.minLength) + (← sum ss)
  least : List Shape → Option Nat
    | [] => none
    | s :: ss => match s.minLength, least ss with
      | some a, some b => some (min a b)
      | a, b => a <|> b

/-- Whether every match is empty. -/
def onlyEmpty : Shape → Bool
  | empty => true
  | bytes bs => bs.isEmpty
  | set _ => false
  | look _ => true
  | repeated s _ max => max == some 0 || s.onlyEmpty
  | group _ s => s.onlyEmpty
  | concat ss => all ss
  | alternation ss => all ss
where
  all : List Shape → Bool
    | [] => true
    | s :: ss => s.onlyEmpty && all ss

/-- What can only match nothing is repeated once at most. -/
def ofRepeated (s : Shape) (min : Nat) (max : Option Nat) : Shape :=
  let (min, max) := if s.onlyEmpty then
      (Nat.min min 1, some (max.elim 1 (Nat.min 1)))
    else (min, max)
  if min = 0 && max == some 0 then empty
  else if min = 1 && max == some 1 then s
  else repeated s min max

/-- How often a choice may be inside a choice after what all begin with has been taken out. -/
def nestedChoices : Nat := 8

/-- The alternatives of an expression; `groups` counts the groups before it. -/
def alternatives (groups : Nat) : Expr → List Shape × Nat
  | .empty => ([empty], groups)
  | .char c => ([bytes (Unicode.utf8Bytes c.toNat)], groups)
  | .set s => ([ofSet s], groups)
  | .look l => ([look l], groups)
  | .seq a b =>
    let (s, groups) := alternatives groups a
    let (t, groups) := alternatives groups b
    ([ofConcat [ofAlternation nestedChoices s, ofAlternation nestedChoices t]], groups)
  | .alt a b =>
    let (s, groups) := alternatives groups a
    let (t, groups) := alternatives groups b
    (s ++ t, groups)
  | .group e =>
    let (s, n) := alternatives (groups + 1) e
    ([group groups (ofAlternation nestedChoices s)], n)
  | .repeated e min max =>
    let (s, groups) := alternatives groups e
    ([ofRepeated (ofAlternation nestedChoices s) min max], groups)

def ofExpr (e : Expr) : Shape := ofAlternation nestedChoices (alternatives 0 e).1

end Shape

end PointSelect.Regex
