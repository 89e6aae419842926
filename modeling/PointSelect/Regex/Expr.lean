import PointSelect.Unicode.CharSet

namespace PointSelect.Regex

/-- Which characters count as parts of words. -/
inductive WordKind where
  | unicode
  | ascii
  deriving DecidableEq

/-- A condition on a place between two characters. -/
inductive Look where
  | textStart
  | textEnd
  | lineStart
  | lineEnd
  /-- The start of a line that a carriage return, a line feed or both may have ended. -/
  | anyLineStart
  | anyLineEnd
  | boundary (w : WordKind)
  | noBoundary (w : WordKind)
  | wordStart (w : WordKind)
  | wordEnd (w : WordKind)
  | wordStartHalf (w : WordKind)
  | wordEndHalf (w : WordKind)
  deriving DecidableEq

/-- A regular expression. -/
inductive Expr where
  | empty
  | char (c : Char)
  | set (s : Unicode.CharSet)
  | look (l : Look)
  | seq (a b : Expr)
  | alt (a b : Expr)
  | group (e : Expr)
  /-- At least `min` times `e`, and at most `max` times if there is a most. -/
  | repeated (e : Expr) (min : Nat) (max : Option Nat)
  deriving DecidableEq

namespace Expr

/-- One after the other. -/
def sequence (es : List Expr) : Expr := es.foldr seq empty

/-- One of several; nothing stands for none of them. -/
def choice : List Expr → Expr
  | [] => empty
  | [e] => e
  | e :: es => alt e (choice es)

end Expr

end PointSelect.Regex
