import PointSelect.Unicode.CaseOrbit

namespace PointSelect.Unicode

/-- The `count` code points that lie `gaps` apart, the first one at `start`, and the numbers
left. -/
def orbitMembers (start : Nat) : Nat → List Nat → List Nat × List Nat
  | count + 1, gap :: rest =>
    let (members, left) := orbitMembers (start + gap) count rest
    (start :: members, left)
  | _, rest => ([start], rest)

/-- Reads groups of characters; there are no more of them than `fuel`. -/
def readOrbits (before : Nat) : Nat → List Nat → List (List Nat)
  | fuel + 1, gap :: more :: rest =>
    let (members, left) := orbitMembers (before + gap) (more + 1) rest
    members :: readOrbits (before + gap) fuel left
  | _, _ => []

/-- The groups of characters that differ in letter case only. -/
def caseOrbits : List (List Nat) :=
  let numbers := Packed.toNumbers packedCaseOrbits
  readOrbits 0 numbers.length numbers

/-- The characters that differ from `c` in letter case only, itself among them, if there are more
than one. -/
def caseOrbit? (c : Char) : Option CharSet :=
  (caseOrbits.find? (·.contains c.toNat)).map fun orbit =>
    CharSet.ofRanges (orbit.map fun n => (n, n))

namespace CharSet

/-- Adds to each character of the set those that differ from it in letter case only. -/
def foldCase (s : CharSet) : CharSet :=
  ⟨(caseOrbits.filter (·.any s.containsCode)).foldl
    (fun acc orbit => orbit.foldl (fun acc n => insertRange n n acc) acc) s.ranges⟩

/-- Adds to each ASCII letter of the set its other case. -/
def foldAsciiCase (s : CharSet) : CharSet :=
  let upper := s.inter ⟨[(0x41, 0x5A)]⟩
  let lower := s.inter ⟨[(0x61, 0x7A)]⟩
  (s.union ⟨upper.ranges.map fun r => (r.1 + 32, r.2 + 32)⟩).union
    ⟨lower.ranges.map fun r => (r.1 - 32, r.2 - 32)⟩

end CharSet

end PointSelect.Unicode
