import PointSelect.Regex.Look

namespace PointSelect.Regex

/-- The character before place `i` of a text. -/
def charBefore (cs : List Char) (i : Nat) : Option Char := if i = 0 then none else cs[i - 1]?

/-- The expression matches the text between two places. Conditions see the whole text around
them. -/
inductive Matches (cs : List Char) : Expr → Nat → Nat → Prop where
  | empty {i : Nat} (h : i ≤ cs.length) : Matches cs .empty i i
  | char {i : Nat} {c : Char} (h : cs[i]? = some c) : Matches cs (.char c) i (i + 1)
  | set {i : Nat} {s : Unicode.CharSet} {c : Char} (h : cs[i]? = some c) (hs : s.contains c) :
    Matches cs (.set s) i (i + 1)
  | look {i : Nat} {l : Look} (h : i ≤ cs.length) (hl : l.holds (charBefore cs i) cs[i]?) :
    Matches cs (.look l) i i
  | seq {i j k : Nat} {a b : Expr} (ha : Matches cs a i j) (hb : Matches cs b j k) :
    Matches cs (.seq a b) i k
  | altLeft {i j : Nat} {a b : Expr} (h : Matches cs a i j) : Matches cs (.alt a b) i j
  | altRight {i j : Nat} {a b : Expr} (h : Matches cs b i j) : Matches cs (.alt a b) i j
  | group {i j : Nat} {e : Expr} (h : Matches cs e i j) : Matches cs (.group e) i j
  | repeatedNone {i : Nat} {e : Expr} {max : Option Nat} (h : i ≤ cs.length) :
    Matches cs (.repeated e 0 max) i i
  | repeatedMore {i j k : Nat} {e : Expr} {min : Nat} {max : Option Nat}
    (hmax : max ≠ some 0) (h : Matches cs e i j)
    (rest : Matches cs (.repeated e (min - 1) (max.map (· - 1))) j k) :
    Matches cs (.repeated e min max) i k

end PointSelect.Regex
