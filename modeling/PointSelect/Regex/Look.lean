import PointSelect.Regex.Expr
import PointSelect.Unicode.Property

namespace PointSelect.Regex

def WordKind.contains : WordKind → Char → Bool
  | .unicode, c => Unicode.wordChars.contains c
  | .ascii, c => c.isAlphanum || c == '_'

namespace Look

/-- Whether the condition holds between two characters; where the text begins or ends there is
none. -/
def holds (l : Look) (before after : Option Char) : Bool :=
  let word (w : WordKind) (c : Option Char) := c.any w.contains
  match l with
  | textStart => before.isNone
  | textEnd => after.isNone
  | lineStart => before.all (· == '\n')
  | lineEnd => after.all (· == '\n')
  | anyLineStart => before.all (· == '\n') || (before == some '\r' && after != some '\n')
  | anyLineEnd => after.all (· == '\r') || (after == some '\n' && before != some '\r')
  | boundary w => word w before != word w after
  | noBoundary w => word w before == word w after
  | wordStart w => !word w before && word w after
  | wordEnd w => word w before && !word w after
  | wordStartHalf w => !word w before
  | wordEndHalf w => !word w after

end Look

end PointSelect.Regex
