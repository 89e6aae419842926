import PointSelect.Number.Hexadecimal
import PointSelect.Regex.Blanks
import PointSelect.Regex.Expr
import PointSelect.Regex.Fault
import PointSelect.Regex.Flags
import PointSelect.Unicode.LetterCase
import PointSelect.Unicode.Property

namespace PointSelect.Regex

open Unicode (CharSet)

/-- What one item of an expression stands for. -/
inductive Atom where
  /-- A character; `byte` tells that it is written as one byte. -/
  | literal (c : Char) (byte : Bool)
  | look (l : Look)
  | set (s : CharSet)

namespace Atom

/-- The characters with a meaning of their own. -/
def isMeta (c : Char) : Bool := "\\.+*?()|[]\x7b\x7d^$#&-~".toList.contains c

/-- Whether a backslash makes the character stand for itself: all of ASCII except letters, digits
and the two angles. -/
def isEscapable (c : Char) : Bool :=
  isMeta c || (c.toNat < 0x80 && !c.isAlphanum && c != '<' && c != '>')

/-- The character of a code point. -/
def ofCode (n : Nat) : Except Fault Char :=
  if n.isValidChar then .ok (Char.ofNat n) else .error .hexInvalid

/-- Reads `count` hexadecimal digits. -/
def readHexDigits (verbose : Bool) (value : Nat) : Nat → List Char → Except Fault (Nat × List Char)
  | 0, cs => .ok (value, cs)
  | _ + 1, [] => .error .escapeUnexpectedEnd
  | count + 1, c :: cs =>
    match hexDigit? c with
    | none => .error (.hexInvalidDigit c)
    | some d => readHexDigits verbose (16 * value + d) count (skip verbose cs)

/-- Reads hexadecimal digits up to a closing brace; there are no more characters than `fuel`. -/
def readHexBrace (verbose : Bool) (value : Option Nat) :
    Nat → List Char → Except Fault (Nat × List Char)
  | 0, _ => .error .escapeUnexpectedEnd
  | fuel + 1, cs =>
    match cs with
    | [] => .error .escapeUnexpectedEnd
    | '}' :: rest => match value with
      | none => .error .hexEmpty
      | some n => .ok (n, skip verbose rest)
    | c :: rest => match hexDigit? c with
      | none => .error (.hexInvalidDigit c)
      | some d => readHexBrace verbose (some (16 * value.getD 0 + d)) fuel (skip verbose rest)

/-- Reads what follows `x`, `u` or `U`: as many digits as the letter stands for, or any number of
them in braces. -/
def readHex (verbose : Bool) (digits : Nat) (cs : List Char) : Except Fault (Atom × List Char) := do
  let cs := skip verbose cs
  match cs with
  | [] => .error .escapeUnexpectedEnd
  | '{' :: rest =>
    let (n, rest) ← readHexBrace verbose none (rest.length + 1) (skip verbose rest)
    return (literal (← ofCode n) false, rest)
  | _ =>
    let (n, rest) ← readHexDigits verbose 0 digits cs
    return (literal (← ofCode n) (digits == 2), rest)

/-- Reads a name up to a closing brace; there are no more characters than `fuel`. -/
def readName (verbose : Bool) (name : List Char) :
    Nat → List Char → Except Fault (List Char × List Char)
  | 0, _ => .error .escapeUnexpectedEnd
  | fuel + 1, cs =>
    match cs with
    | [] => .error .escapeUnexpectedEnd
    | '}' :: rest => .ok (name.reverse, rest)
    | c :: rest => readName verbose (c :: name) fuel (skip verbose rest)

/-- Cuts a name before the first place where `mark` begins. -/
def cutAt? (mark : List Char) : List Char → Option (List Char × List Char)
  | [] => none
  | c :: cs =>
    if mark.isPrefixOf (c :: cs) then some ([], (c :: cs).drop mark.length)
    else (cutAt? mark cs).map fun (a, b) => (c :: a, b)

/-- The characters of a property by its name, or by its name and a value, and whether the relation
between the two is a negated one. -/
def namedSet? (name : List Char) : Option CharSet × Bool :=
  let byValue (parts : List Char × List Char) :=
    Unicode.propertyValue? (String.ofList parts.1) (String.ofList parts.2)
  match cutAt? ['!', '='] name with
  | some parts => (byValue parts, true)
  | none => match cutAt? [':'] name <|> cutAt? ['='] name with
    | some parts => (byValue parts, false)
    | none => (Unicode.property? (String.ofList name), false)

/-- A set as it is read: closed under letter case where case does not count, then negated. A set of
bytes has no negation, which would match invalid text. -/
def adjust (flags : Flags) (negated : Bool) (s : CharSet) : Except Fault CharSet :=
  if flags.unicode then
    let s := if flags.caseInsensitive then s.foldCase else s
    .ok (if negated then s.negate else s)
  else if negated then .error .matchesInvalidText
  else .ok (if flags.caseInsensitive then s.foldAsciiCase else s)

/-- Reads what follows `p` or `P`. -/
def readProperty (flags : Flags) (negated : Bool) (cs : List Char) :
    Except Fault (Atom × List Char) := do
  let cs := skip flags.verbose cs
  let (name, rest) ← match cs with
    | [] => .error .escapeUnexpectedEnd
    | '{' :: rest => readName flags.verbose [] (rest.length + 1) (skip flags.verbose rest)
    | '\\' :: _ => .error (.propertyNotFound "\\")
    | c :: rest => .ok ([c], skip flags.verbose rest)
  if !flags.unicode then .error .propertyNeedsUnicode
  else match namedSet? name with
    | (none, _) => .error (.propertyNotFound (String.ofList name))
    | (some s, unlike) => return (set (← adjust flags (negated != unlike) s), rest)

/-- The class of a letter: decimal digits, blanks or characters of words. -/
def letterClass (flags : Flags) (c : Char) : Except Fault CharSet :=
  let kind := c.toLower
  if flags.unicode then
    let s := if kind == 'd' then Unicode.digits
      else if kind == 's' then Unicode.blanks else Unicode.wordChars
    .ok (if c.isUpper then s.negate else s)
  else if c.isUpper then .error .matchesInvalidText
  else if kind == 'd' then .ok ⟨[(0x30, 0x39)]⟩
  else if kind == 's' then .ok ⟨[(0x09, 0x0D), (0x20, 0x20)]⟩
  else .ok ⟨[(0x30, 0x39), (0x41, 0x5A), (0x5F, 0x5F), (0x61, 0x7A)]⟩

def wordKind (flags : Flags) : WordKind := if flags.unicode then .unicode else .ascii

/-- The letters and hyphens that the name of a special boundary is made of. -/
def isBoundaryLetter (c : Char) : Bool := c.isAlpha || c == '-'

/-- Reads the name of a special boundary; there are no more characters than `fuel`. -/
def readBoundaryName (verbose : Bool) (name : List Char) :
    Nat → List Char → Except Fault (List Char × List Char)
  | fuel + 1, c :: cs =>
    if isBoundaryLetter c then readBoundaryName verbose (c :: name) fuel (skip verbose cs)
    else if c == '}' then .ok (name.reverse, cs)
    else .error .boundaryUnclosed
  | _, _ => .error .boundaryUnclosed

/-- Reads what follows `b`: the name of a special boundary in braces, if there is one. -/
def readBoundary (flags : Flags) (cs : List Char) : Except Fault (Atom × List Char) := do
  let w := wordKind flags
  match cs with
  | '{' :: rest =>
    let inner := skip flags.verbose rest
    match inner with
    | [] => .error .boundaryUnclosed
    | c :: _ =>
      if !isBoundaryLetter c then return (look (.boundary w), cs)
      let (name, rest) ← readBoundaryName flags.verbose [] (inner.length + 1) inner
      let name := String.ofList name
      if name = "start" then return (look (.wordStart w), rest)
      else if name = "end" then return (look (.wordEnd w), rest)
      else if name = "start-half" then return (look (.wordStartHalf w), rest)
      else if name = "end-half" then return (look (.wordEndHalf w), rest)
      else .error (.boundaryUnrecognized name)
  | _ => return (look (.boundary w), cs)

/-- Reads what follows a backslash. -/
def readEscape (flags : Flags) : List Char → Except Fault (Atom × List Char)
  | [] => .error .escapeUnexpectedEnd
  | c :: cs =>
    if c.isDigit then .error .backreference
    else if c == 'x' then readHex flags.verbose 2 cs
    else if c == 'u' then readHex flags.verbose 4 cs
    else if c == 'U' then readHex flags.verbose 8 cs
    else if c == 'p' || c == 'P' then readProperty flags (c == 'P') cs
    else if "dswDSW".toList.contains c then do return (set (← letterClass flags c), cs)
    else if isEscapable c then .ok (literal c false, cs)
    else match c with
      | 'a' => .ok (literal '\x07' false, cs)
      | 'f' => .ok (literal '\x0C' false, cs)
      | 't' => .ok (literal '\t' false, cs)
      | 'n' => .ok (literal '\n' false, cs)
      | 'r' => .ok (literal '\r' false, cs)
      | 'v' => .ok (literal '\x0B' false, cs)
      | 'A' => .ok (look .textStart, cs)
      | 'z' => .ok (look .textEnd, cs)
      | 'b' => readBoundary flags cs
      | 'B' => .ok (look (.noBoundary (wordKind flags)), cs)
      | '<' => .ok (look (.wordStart (wordKind flags)), cs)
      | '>' => .ok (look (.wordEnd (wordKind flags)), cs)
      | _ => .error (.escapeUnrecognized c)

end Atom

end PointSelect.Regex
