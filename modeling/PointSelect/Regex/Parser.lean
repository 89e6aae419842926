import PointSelect.Regex.Class

namespace PointSelect.Regex

open Unicode (CharSet)

/-- One element of a sequence with the depth of its nesting. A flag directive holds no expression
and cannot be repeated. -/
inductive Element where
  | directive
  | expr (e : Expr) (depth : Nat)

namespace Element

def depth : Element → Nat
  | directive => 0
  | expr _ d => d

def expr? : Element → Option Expr
  | directive => none
  | expr e _ => some e

/-- The elements, the last one first, as one expression; a sequence of several nests once more. -/
def close (elements : List Element) : Expr × Nat :=
  let es := elements.reverse.filterMap expr?
  let depth := elements.foldl (fun d x => max d x.depth) 0
  match elements with
  | [] => (.empty, 0)
  | [expr e d] => (e, d)
  | [directive] => (.empty, 0)
  | _ => (.sequence es, depth + 1)

end Element

/-- What is read so far on one level: the elements of the current alternative and the alternatives
before it, both with the last one first. -/
structure Level where
  elements : List Element := []
  alternatives : List (Expr × Nat) := []

namespace Level

def push (l : Level) (e : Expr) (depth : Nat) : Level :=
  { l with elements := .expr e depth :: l.elements }

/-- Ends the current alternative. -/
def endAlternative (l : Level) : Level :=
  { elements := [], alternatives := Element.close l.elements :: l.alternatives }

/-- The level as one expression; a choice nests once more. -/
def close (l : Level) : Expr × Nat :=
  match l.alternatives with
  | [] => Element.close l.elements
  | _ =>
    let all := (Element.close l.elements :: l.alternatives).reverse
    (.choice (all.map (·.1)), all.foldl (fun d x => max d x.2) 0 + 1)

end Level

/-- An open group: the level around it, the flags to go back to, and whether it captures. -/
structure OpenGroup where
  outer : Level
  flags : Flags
  captures : Bool

/-- What the reader knows between two steps. -/
structure Progress where
  level : Level := {}
  groups : List OpenGroup := []
  flags : Flags := {}
  names : List String := []

namespace Parser

/-- The expression of a literal; where case does not count, of all its cases. -/
def literalExpr (flags : Flags) (c : Char) (byte : Bool) : Except Fault Expr :=
  if !flags.unicode && byte && 0x80 ≤ c.toNat then .error .matchesInvalidText
  else if !flags.caseInsensitive then .ok (.char c)
  else if flags.unicode then match Unicode.caseOrbit? c with
    | some s => .ok (.set s)
    | none => .ok (.char c)
  else if c.isAlpha then .ok (.set (CharSet.single c).foldAsciiCase)
  else .ok (.char c)

/-- What a point matches: any character, or all but those that end a line. -/
def dotExpr (flags : Flags) : Except Fault Expr :=
  if !flags.unicode then .error .matchesInvalidText
  else if flags.dotAll then .ok (.set Unicode.anyChar)
  else if flags.crlf then .ok (.set (CharSet.compl ⟨[(0x0A, 0x0A), (0x0D, 0x0D)]⟩))
  else .ok (.set (CharSet.compl (CharSet.single '\n')))

def startLook (flags : Flags) : Look :=
  if !flags.multiLine then .textStart else if flags.crlf then .anyLineStart else .lineStart

def endLook (flags : Flags) : Look :=
  if !flags.multiLine then .textEnd else if flags.crlf then .anyLineEnd else .lineEnd

/-- Reads one item that is no operator: an escape, a point, an anchor or a character. -/
def readAtom (flags : Flags) : List Char → Except Fault (Expr × List Char)
  | [] => .error .escapeUnexpectedEnd
  | '\\' :: cs => do
    let (atom, rest) ← Atom.readEscape flags cs
    match atom with
    | .literal c byte => return (← literalExpr flags c byte, rest)
    | .look l => return (.look l, rest)
    | .set s => return (.set s, rest)
  | '.' :: cs => do return (← dotExpr flags, cs)
  | '^' :: cs => .ok (.look (startLook flags), cs)
  | '$' :: cs => .ok (.look (endLook flags), cs)
  | c :: cs => do return (← literalExpr flags c false, cs)

/-- Reads flag letters up to `:` or `)`; `value` tells whether they turn on. There are no more
characters than `fuel`. -/
def readFlags (changes : List (Flag × Bool)) (value : Bool) (dangling : Bool) :
    Nat → List Char → Except Fault (List (Flag × Bool) × List Char)
  | 0, _ => .error .flagUnexpectedEnd
  | fuel + 1, cs =>
    match cs with
    | [] => .error .flagUnexpectedEnd
    | c :: rest =>
      if c == ':' || c == ')' then
        if dangling then .error .flagDanglingNegation else .ok (changes.reverse, c :: rest)
      else if c == '-' then
        if value then readFlags changes false true fuel rest else .error .flagRepeatedNegation
      else match Flag.ofChar? c with
        | none => .error (.flagUnrecognized c)
        | some f =>
          if changes.any (·.1 == f) then .error .flagDuplicate
          else readFlags ((f, value) :: changes) value false fuel rest

/-- The characters of group names. -/
def isNameChar (first : Bool) (c : Char) : Bool :=
  let alphabetic := (Unicode.binary "alphabetic").contains c
  if first then c == '_' || alphabetic
  else c == '_' || c == '.' || c == '[' || c == ']' || alphabetic ||
    (Unicode.category "n").contains c

/-- Reads the name of a group up to its angle. -/
def readGroupName (names : List String) (cs : List Char) : Except Fault (String × List Char) :=
  let name := cs.takeWhile (· != '>')
  let allowed := match name with
    | [] => true
    | c :: rest => isNameChar true c && rest.all (isNameChar false)
  if !allowed then .error .groupNameInvalid
  else match cs.dropWhile (· != '>') with
    | [] => .error .groupNameUnexpectedEnd
    | _ :: rest =>
      let text := String.ofList name
      if name.isEmpty then .error .groupNameEmpty
      else if names.contains text then .error (.groupNameDuplicate text)
      else .ok (text, rest)

/-- Opens a group inside the current level. -/
def openGroup (p : Progress) (captures : Bool) (flags : Flags) (names : List String) : Progress :=
  { level := {}, groups := ⟨p.level, p.flags, captures⟩ :: p.groups, flags, names }

/-- Reads what follows an opening parenthesis: the start of a group or a flag directive. -/
def readOpening (p : Progress) (cs : List Char) : Except Fault (Progress × List Char) := do
  let named (cs : List Char) := do
    let (name, rest) ← readGroupName p.names cs
    .ok (openGroup p true p.flags (name :: p.names), rest)
  match skip p.flags.verbose cs with
  | '?' :: '=' :: _ | '?' :: '!' :: _ | '?' :: '<' :: '=' :: _ | '?' :: '<' :: '!' :: _ =>
    .error .lookAround
  | '?' :: 'P' :: '<' :: rest => named rest
  | '?' :: '<' :: rest => named rest
  | '?' :: rest =>
    if rest.isEmpty then .error .groupUnclosed
    else
      let (changes, rest) ← readFlags [] true false (rest.length + 1) rest
      let flags := p.flags.setAll changes
      match rest with
      | ')' :: rest =>
        if changes.isEmpty then .error .repetitionMissing
        else return ({ p with
          level := { p.level with elements := .directive :: p.level.elements }, flags }, rest)
      | _ => return (openGroup p false flags p.names, rest.tail)
  | cs => return (openGroup p true p.flags p.names, cs)

/-- Closes the innermost group. -/
def closeGroup (p : Progress) : Except Fault Progress :=
  match p.groups with
  | [] => .error .groupUnopened
  | g :: groups =>
    let (e, depth) := p.level.close
    let e := if g.captures then .group e else e
    .ok { p with level := g.outer.push e (depth + 1), groups, flags := g.flags }

/-- Repeats the last element of the level. -/
def repeatLast (p : Progress) (min : Nat) (max : Option Nat) : Except Fault Progress :=
  match p.level.elements with
  | .expr e depth :: elements =>
    .ok { p with level := { p.level with
      elements := .expr (.repeated e min max) (depth + 1) :: elements } }
  | _ => .error .repetitionMissing

/-- Drops the mark of a repetition that prefers few. -/
def dropLazy : List Char → List Char
  | '?' :: cs => cs
  | cs => cs

/-- The greatest count of a repetition. -/
def maxCount : Nat := 0xFFFFFFFF

/-- Reads the digits of a count; between them stands only what means nothing. -/
def readDigits (verbose : Bool) (digits : List Char) : Nat → List Char → List Char × List Char
  | fuel + 1, c :: cs =>
    if c.isDigit then readDigits verbose (c :: digits) fuel (skip verbose cs)
    else (digits.reverse, c :: cs)
  | _, cs => (digits.reverse, cs)

/-- Drops blanks after a count. -/
def dropBlanks (verbose : Bool) : Nat → List Char → List Char
  | fuel + 1, c :: cs =>
    if Text.isBlank c then dropBlanks verbose fuel (skip verbose cs) else c :: cs
  | _, cs => cs

/-- Reads a count with blanks around it; `none` stands for no digits. -/
def readCount (verbose : Bool) (cs : List Char) : Except Fault (Option Nat × List Char) :=
  let (digits, rest) := readDigits verbose [] cs.length (cs.dropWhile Text.isBlank)
  let rest := dropBlanks verbose rest.length rest
  let n := digits.foldl (fun n c => 10 * n + (c.toNat - '0'.toNat)) 0
  if digits.isEmpty then .ok (none, rest)
  else if maxCount < n then .error .countTooLarge
  else .ok (some n, rest)

/-- Reads what follows the opening brace of a repetition: one count, or a least and a greatest one
around a comma. -/
def readCounts (verbose : Bool) (cs : List Char) :
    Except Fault ((Nat × Option Nat) × List Char) := do
  let cs := skip verbose cs
  if cs.isEmpty then .error .repetitionUnclosed
  else
    let (least, rest) ← readCount verbose cs
    match rest with
    | [] => .error .repetitionUnclosed
    | ',' :: rest =>
      let rest := skip verbose rest
      match least, rest with
      | _, [] => .error .repetitionUnclosed
      | none, _ => .error .countEmpty
      | some m, '}' :: rest => return ((m, none), rest)
      | some m, rest =>
        let (most, rest) ← readCount verbose rest
        match most, rest with
        | none, _ => .error .countEmpty
        | some n, '}' :: rest =>
          if m ≤ n then return ((m, some n), rest) else .error .repetitionOutOfOrder
        | _, _ => .error .repetitionUnclosed
    | '}' :: rest => match least with
      | none => .error .countEmpty
      | some n => return ((n, some n), rest)
    | _ => if least.isNone then .error .countEmpty else .error .repetitionUnclosed

/-- Reads one group mark, operator, class or atom. -/
def step (p : Progress) : List Char → Except Fault (Progress × List Char)
  | [] => .ok (p, [])
  | '(' :: cs => readOpening p cs
  | ')' :: cs => do return (← closeGroup p, cs)
  | '|' :: cs => .ok ({ p with level := p.level.endAlternative }, cs)
  | '[' :: cs => do
    let ((s, depth), rest) ← Class.read p.flags cs
    return ({ p with level := p.level.push (.set s) depth }, rest)
  | '?' :: cs => do return (← repeatLast p 0 (some 1), dropLazy cs)
  | '*' :: cs => do return (← repeatLast p 0 none, dropLazy cs)
  | '+' :: cs => do return (← repeatLast p 1 none, dropLazy cs)
  | '{' :: cs => do
    let ((min, max), rest) ← readCounts p.flags.verbose cs
    return (← repeatLast p min max, dropLazy (skip p.flags.verbose rest))
  | cs => do
    let (e, rest) ← readAtom p.flags cs
    return ({ p with level := p.level.push e 0 }, rest)

/-- Reads the whole text. Every step takes a character, so `fuel` is one more than there are. -/
def readAll (p : Progress) : Nat → List Char → Except Fault Progress
  | 0, _ => .error .groupUnclosed
  | fuel + 1, cs =>
    match skip p.flags.verbose cs with
    | [] => .ok p
    | cs => do
      let (p, rest) ← step p cs
      readAll p fuel rest

/-- How deep an expression may be nested. -/
def maxDepth : Nat := 250

/-- Reads a regular expression. -/
def read (cs : List Char) : Except Fault Expr := do
  let p ← readAll {} (cs.length + 1) cs
  if !p.groups.isEmpty then .error .groupUnclosed
  else
    let (e, depth) := p.level.close
    if depth ≤ maxDepth then return e else .error .nestedTooDeep

end Parser

end PointSelect.Regex
