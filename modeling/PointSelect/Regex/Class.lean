import PointSelect.Regex.Escape

namespace PointSelect.Regex

open Unicode (CharSet)

namespace Class

/-- What combines the two sides of a class. -/
inductive Operation where
  | intersection
  | difference
  | symmetricDifference
  deriving DecidableEq

/-- The union of the items read so far, how many they are and how deep the deepest is nested. -/
structure Items where
  set : CharSet := .empty
  count : Nat := 0
  depth : Nat := 0

namespace Items

def add (items : Items) (s : CharSet) (depth : Nat) : Items :=
  ⟨items.set.union s, items.count + 1, max items.depth depth⟩

/-- The set with its depth; a union of several items nests once more. -/
def close (items : Items) : CharSet × Nat :=
  (items.set, if items.count ≤ 1 then items.depth else items.depth + 1)

end Items

/-- What waits for the class being read: the items around an inner class, or the left side of an
operation. -/
inductive Frame where
  | opened (outer : Items) (negated : Bool)
  | operation (op : Operation) (left : CharSet × Nat)

def combine (flags : Flags) (op : Operation) (s t : CharSet) : CharSet :=
  let fold (s : CharSet) :=
    if !flags.caseInsensitive then s else if flags.unicode then s.foldCase else s.foldAsciiCase
  match op with
  | .intersection => (fold s).inter (fold t)
  | .difference => (fold s).diff (fold t)
  | .symmetricDifference => (fold s).symmDiff (fold t)

/-- Carries out the operation that waits for its right side, if there is one. -/
def finish (flags : Flags) (right : CharSet × Nat) : List Frame → (CharSet × Nat) × List Frame
  | .operation op left :: stack =>
    ((combine flags op left.1 right.1, max left.2 right.2 + 1), stack)
  | stack => (right, stack)

/-- The named classes of ASCII characters. -/
def asciiClass? (name : String) : Option CharSet :=
  match name with
  | "alnum" => some ⟨[(0x30, 0x39), (0x41, 0x5A), (0x61, 0x7A)]⟩
  | "alpha" => some ⟨[(0x41, 0x5A), (0x61, 0x7A)]⟩
  | "ascii" => some ⟨[(0x00, 0x7F)]⟩
  | "blank" => some ⟨[(0x09, 0x09), (0x20, 0x20)]⟩
  | "cntrl" => some ⟨[(0x00, 0x1F), (0x7F, 0x7F)]⟩
  | "digit" => some ⟨[(0x30, 0x39)]⟩
  | "graph" => some ⟨[(0x21, 0x7E)]⟩
  | "lower" => some ⟨[(0x61, 0x7A)]⟩
  | "print" => some ⟨[(0x20, 0x7E)]⟩
  | "punct" => some ⟨[(0x21, 0x2F), (0x3A, 0x40), (0x5B, 0x60), (0x7B, 0x7E)]⟩
  | "space" => some ⟨[(0x09, 0x0D), (0x20, 0x20)]⟩
  | "upper" => some ⟨[(0x41, 0x5A)]⟩
  | "word" => some ⟨[(0x30, 0x39), (0x41, 0x5A), (0x5F, 0x5F), (0x61, 0x7A)]⟩
  | "xdigit" => some ⟨[(0x30, 0x39), (0x41, 0x46), (0x61, 0x66)]⟩
  | _ => none

/-- Reads a named class of ASCII characters after its bracket, as in `:alpha:]` or `:^alpha:]`. -/
def namedAscii? : List Char → Option (CharSet × Bool × List Char)
  | ':' :: cs =>
    let (negated, cs) := match cs with
      | '^' :: rest => (true, rest)
      | _ => (false, cs)
    match cs.dropWhile (· != ':') with
    | ':' :: ']' :: rest =>
      (asciiClass? (String.ofList (cs.takeWhile (· != ':')))).map fun s => (s, negated, rest)
    | _ => none
  | _ => none

/-- The code point of a literal in a class. A class of bytes holds ASCII only. -/
def literalCode (flags : Flags) (c : Char) (byte : Bool) : Except Fault Nat :=
  if flags.unicode || c.toNat < 0x80 then .ok c.toNat
  else if byte then .error .matchesInvalidText
  else .error .notAsciiInClass

def readItem (flags : Flags) : List Char → Except Fault (Atom × List Char)
  | [] => .error .classUnclosed
  | '\\' :: cs => Atom.readEscape flags cs
  | c :: cs => .ok (.literal c false, cs)

/-- Whether a hyphen follows that joins two ends of a range. -/
def joinsRange (verbose : Bool) (cs : List Char) : Bool :=
  match cs with
  | '-' :: _ => peek verbose cs != some ']' && peek verbose cs != some '-'
  | _ => false

/-- Reads one item of a class: a character, a set or a range. -/
def readRange (flags : Flags) (cs : List Char) : Except Fault (CharSet × List Char) := do
  let (first, rest) ← readItem flags cs
  let rest := skip flags.verbose rest
  if rest.isEmpty then .error .classUnclosed
  else if joinsRange flags.verbose rest then
    let (last, rest) ← readItem flags (advance flags.verbose rest)
    match first, last with
    | .literal a x, .literal b y =>
      let lo ← literalCode flags a x
      let hi ← literalCode flags b y
      if lo ≤ hi then return (⟨[(lo, hi)]⟩, rest) else .error .classRangeInvalid
    | _, _ => .error .classRangeNotLiteral
  else match first with
    | .literal c byte =>
      let n ← literalCode flags c byte
      return (⟨[(n, n)]⟩, rest)
    | .set s => return (s, rest)
    | .look _ => .error .classEscapeInvalid

/-- Takes hyphens at the start of a class as themselves. -/
def readHyphens (verbose : Bool) (items : Items) : Nat → List Char → Items × List Char
  | fuel + 1, '-' :: cs =>
    readHyphens verbose (items.add (.single '-') 0) fuel (skip verbose cs)
  | _, cs => (items, cs)

/-- Reads the start of a class after its bracket: a negation, then hyphens or a closing bracket that
stand for themselves. -/
def readStart (verbose : Bool) (cs : List Char) : Except Fault (Bool × Items × List Char) :=
  let cs := skip verbose cs
  let (negated, cs) := match cs with
    | '^' :: rest => (true, skip verbose rest)
    | _ => (false, cs)
  let (items, cs) := readHyphens verbose {} cs.length cs
  let (items, cs) := match cs with
    | ']' :: rest => if items.count = 0 then (items.add (.single ']') 0, skip verbose rest)
      else (items, cs)
    | _ => (items, cs)
  if cs.isEmpty then .error .classUnclosed else .ok (negated, items, cs)

/-- The operation that two equal characters stand for. -/
def operation? : List Char → Option (Operation × List Char)
  | '&' :: '&' :: cs => some (.intersection, cs)
  | '-' :: '-' :: cs => some (.difference, cs)
  | '~' :: '~' :: cs => some (.symmetricDifference, cs)
  | _ => none

/-- Reads the rest of a class up to the bracket that closes the outermost one. Every step takes a
character, so `fuel` is one more than there are characters. -/
def readItems (flags : Flags) (stack : List Frame) (items : Items) :
    Nat → List Char → Except Fault ((CharSet × Nat) × List Char)
  | 0, _ => .error .classUnclosed
  | fuel + 1, cs => do
    let cs := skip flags.verbose cs
    match cs with
    | [] => .error .classUnclosed
    | '[' :: rest =>
      match namedAscii? rest with
      | some (s, negated, rest) =>
        let s ← Atom.adjust flags negated s
        readItems flags stack (items.add s 0) fuel rest
      | none =>
        let (negated, inner, rest) ← readStart flags.verbose rest
        readItems flags (.opened items negated :: stack) inner fuel rest
    | ']' :: rest =>
      match finish flags items.close stack with
      | ((s, depth), .opened outer negated :: stack) =>
        let s ← Atom.adjust flags negated s
        if stack.isEmpty then return ((s, depth + 1), rest)
        else readItems flags stack (outer.add s (depth + 1)) fuel rest
      | _ => .error .classUnclosed
    | _ =>
      match operation? cs with
      | some (op, rest) =>
        let (left, stack) := finish flags items.close stack
        readItems flags (.operation op left :: stack) {} fuel rest
      | none =>
        let (s, rest) ← readRange flags cs
        readItems flags stack (items.add s 0) fuel rest

/-- Reads a class after its opening bracket: its characters and how deep it is nested. -/
def read (flags : Flags) (cs : List Char) : Except Fault ((CharSet × Nat) × List Char) := do
  let (negated, items, rest) ← readStart flags.verbose cs
  readItems flags [.opened {} negated] items (rest.length + 1) rest

end Class

end PointSelect.Regex
