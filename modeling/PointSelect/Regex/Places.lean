import PointSelect.Regex.Look

namespace PointSelect.Regex

/-- A set of places in a text as the bits of a number. -/
abbrev Places := Nat

namespace Places

/-- The places of `cs` whose neighbours pass a test; `before` stands before the first one. -/
def suchThat (test : Option Char → Option Char → Bool) (before : Option Char) :
    List Char → Places
  | [] => (test before none).toNat
  | c :: cs => 2 * suchThat test (some c) cs + (test before (some c)).toNat

/-- All places of a text of that length. -/
def all (length : Nat) : Places := Nat.pow 2 (length + 1) - 1

end Places

/-- An expression against one text: for every condition and every character the places that pass. -/
inductive Plan where
  | stay (mask : Places)
  | step (mask : Places)
  | seq (a b : Plan)
  | alt (a b : Plan)
  | repeated (p : Plan) (min : Nat) (max : Option Nat)

namespace Plan

def ofExpr (cs : List Char) : Expr → Plan
  | .empty => stay (Places.all cs.length)
  | .char c => step (Places.suchThat (fun _ after => after == some c) none cs)
  | .set s => step (Places.suchThat (fun _ after => after.any s.contains) none cs)
  | .look l => stay (Places.suchThat l.holds none cs)
  | .seq a b => seq (ofExpr cs a) (ofExpr cs b)
  | .alt a b => alt (ofExpr cs a) (ofExpr cs b)
  | .group e => ofExpr cs e
  | .repeated e min max => repeated (ofExpr cs e) min max

/-- Applies `f` as often as told, or until nothing changes any more. -/
def iterate (f : Places → Places) : Nat → Places → Places
  | 0, s => s
  | n + 1, s =>
    let t := f s
    if t = s then s else iterate f n t

/-- The places after a match that began at one of the places `s`, in a text with `length`
characters. -/
def run (length : Nat) : Plan → Places → Places
  | stay mask, s => s &&& mask
  | step mask, s => (s &&& mask) <<< 1
  | seq a b, s => run length b (run length a s)
  | alt a b, s => run length a s ||| run length b s
  | repeated p min max, s =>
    iterate (fun t => t ||| run length p t) (match max with
      | some m => m - min
      | none => length + 1) (iterate (run length p) min s)

end Plan

namespace Expr

/-- Whether some match begins at the start of the text. -/
def matchesAtStart (e : Expr) (text : String) : Bool :=
  let cs := text.toList
  (Plan.ofExpr cs e).run cs.length 1 != 0

/-- Whether some match begins anywhere in the text. -/
def matchesAnywhere (e : Expr) (text : String) : Bool :=
  let cs := text.toList
  (Plan.ofExpr cs e).run cs.length (Places.all cs.length) != 0

end Expr

end PointSelect.Regex
