namespace PointSelect.Regex

/-- A letter that turns a way of reading on or off. -/
inductive Flag where
  | caseInsensitive
  | multiLine
  | dotAll
  | swapGreed
  | unicode
  | crlf
  | verbose
  deriving DecidableEq

namespace Flag

def ofChar? : Char → Option Flag
  | 'i' => some caseInsensitive
  | 'm' => some multiLine
  | 's' => some dotAll
  | 'U' => some swapGreed
  | 'u' => some unicode
  | 'R' => some crlf
  | 'x' => some verbose
  | _ => none

end Flag

/-- The ways of reading in force. -/
structure Flags where
  caseInsensitive : Bool := false
  multiLine : Bool := false
  dotAll : Bool := false
  unicode : Bool := true
  crlf : Bool := false
  verbose : Bool := false
  deriving DecidableEq

namespace Flags

/-- Greed decides which match is found and never whether there is one, so it is not kept. -/
def set (f : Flags) (value : Bool) : Flag → Flags
  | .caseInsensitive => { f with caseInsensitive := value }
  | .multiLine => { f with multiLine := value }
  | .dotAll => { f with dotAll := value }
  | .swapGreed => f
  | .unicode => { f with unicode := value }
  | .crlf => { f with crlf := value }
  | .verbose => { f with verbose := value }

def setAll (f : Flags) (changes : List (Flag × Bool)) : Flags :=
  changes.foldl (fun f c => f.set c.2 c.1) f

end Flags

end PointSelect.Regex
