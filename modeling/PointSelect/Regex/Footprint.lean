import PointSelect.Regex.Shape

namespace PointSelect.Regex

open Unicode (ByteRanges CharSet)

namespace Footprint

/-- The bytes of memory of a state of the machine. -/
def state : Nat := 32

/-- The further bytes of a state that goes on along several byte ranges. -/
def transitions (count : Nat) : Nat := 8 * count

/-- The further bytes of a state that goes on to several states. -/
def branches (count : Nat) : Nat := 4 * count

/-- Groups members by their first element; only neighbours share a group. -/
def groupHeads {α : Type} [BEq α] : List (List α) → List (α × List (List α))
  | [] => []
  | [] :: rest => groupHeads rest
  | (a :: as) :: rest => match groupHeads rest with
    | (b, members) :: groups =>
      if a == b then (b, as :: members) :: groups else (a, [as]) :: (b, members) :: groups
    | [] => [(a, [as])]

/-- A state of the machine of a set: its byte ranges, each with the state it leads to. -/
abbrev Node := List ((Nat × Nat) × Nat)

/-- The place of a node among the states made so far, where equal ones are shared. -/
def intern (nodes : List Node) (node : Node) : Nat × List Node :=
  match nodes.idxOf? node with
  | some i => (nodes.length - i, nodes)
  | none => (nodes.length + 1, node :: nodes)

/-- Makes the states for products of byte ranges that are no longer than `fuel`. State 0 is the
end. -/
def shareSuffixes : Nat → List Node → List ByteRanges → Nat × List Node
  | 0, nodes, _ => (0, nodes)
  | fuel + 1, nodes, rows =>
    match groupHeads rows with
    | [] => (0, nodes)
    | groups =>
      let (node, nodes) := groups.foldl (fun (node, nodes) g =>
        let (target, nodes) := shareSuffixes fuel nodes g.2
        ((g.1, target) :: node, nodes)) (([] : Node), nodes)
      intern nodes node.reverse

/-- The number of states for products of byte ranges if only beginnings are shared. -/
def prefixNodes {α : Type} [BEq α] : Nat → List (List α) → Nat
  | 0, _ => 0
  | fuel + 1, rows => (groupHeads rows).foldl (fun n g => n + 1 + prefixNodes fuel g.2) 0

/-- The memory for a set of characters. Forwards the states for equal endings are shared, backwards
those for equal beginnings. -/
def ofSet (backwards : Bool) (s : CharSet) : Nat :=
  if s.isAscii then 2 * state + transitions s.ranges.length
  else
    let rows := s.byteRanges
    if backwards then
      2 * state + branches rows.length + state * prefixNodes 4 rows
    else
      let (_, nodes) := shareSuffixes 4 [] rows
      nodes.foldl (fun n node => n + state + transitions node.length) state

/-- Sorts the members by their first element. -/
def sortHeads (words : List (List Nat)) : List (List Nat) :=
  words.mergeSort fun a b => a.headD 0 ≤ b.headD 0

/-- The memory below one node of a choice of words that are no longer than `fuel`. -/
def ofWords : Nat → List (List Nat) → Nat
  | 0, _ => 0
  | fuel + 1, words =>
    match groupHeads (sortHeads words) with
    | [] => 0
    | groups =>
      let ends := if words.any List.isEmpty then 2 else 1
      let fan := if groups.length = 1 then 0 else transitions groups.length
      groups.foldl (fun n g => n + ofWords fuel g.2) (2 * state + branches ends + fan)

/-- The words of a choice, if there are only words. -/
def words? (ss : List Shape) : Option (List (List Nat)) :=
  ss.mapM fun s => match s with
    | .bytes bs => some bs
    | _ => none

/-- The memory of the machine for a shape, read forwards or backwards. -/
def ofShape (backwards : Bool) : Shape → Nat
  | .empty => state
  | .bytes bs => state * bs.length
  | .set s => ofSet backwards s
  | .look _ => state
  | .repeated s min max =>
    let one := ofShape backwards s
    let branch := state + branches 2
    match min, max with
    | 0, some 1 => branch + state + one
    | 0, none => if s.minLength.any (0 < ·) then branch + one else 2 * branch + state + one
    | n, none => n * one + branch
    | m, some n =>
      let least := if m = 0 then state else m * one
      if m = n then least else least + state + (n - m) * (branch + one)
  | .group _ s => (if backwards then 0 else 2 * state) + ofShape backwards s
  | .concat ss => sum ss
  | .alternation ss =>
    match words? ss with
    | some words =>
      let words := if backwards then words.map List.reverse else words
      state + ofWords ((words.map List.length).foldl max 0 + 1) words
    | none => 2 * state + branches ss.length + sum ss
where
  sum : List Shape → Nat
    | [] => 0
    | s :: ss => ofShape backwards s + sum ss

/-- The most memory that a machine may take: 10 MiB. -/
def limit : Nat := 10 * 0x100000

/-- What every machine has besides: the way to the first place of a match, and the final state. -/
def frame (backwards : Bool) : Nat :=
  let start := state + branches 2 + 2 * state + transitions 1
  start + state + if backwards then 0 else 2 * state

/-- Whether the machines of an expression, forwards and backwards, stay within the limit. -/
def isWithinLimit (e : Expr) : Bool :=
  let s := Shape.ofExpr e
  [false, true].all fun backwards => frame backwards + ofShape backwards s ≤ limit

end Footprint

end PointSelect.Regex
