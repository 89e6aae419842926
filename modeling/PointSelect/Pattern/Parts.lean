import PointSelect.Text.Blank
import PointSelect.Selector.Basic

namespace PointSelect

namespace Pattern

/-- Cuts a text at its first unescaped marker. An escaped marker stands for itself in the path; any
other backslash stays together with the character after it. -/
def cutAtMarker : List Char → List Char × Option (Coordinate × List Char)
  | [] => ([], none)
  | ['\\'] => (['\\'], none)
  | '\\' :: c :: cs =>
    let (path, rest) := cutAtMarker cs
    (if (Coordinate.ofMarker? c).isSome then c :: path else '\\' :: c :: path, rest)
  | c :: cs =>
    match Coordinate.ofMarker? c with
    | some k => ([], some (k, cs))
    | none =>
      let (path, rest) := cutAtMarker cs
      (c :: path, rest)

end Pattern

/-- A pattern text taken apart: the path expression, the selector with its coordinate, and the text
after the selector, which means nothing. -/
structure PatternParts where
  path : String
  selector : Option (Coordinate × String)
  trailing : String
  deriving DecidableEq

namespace Pattern

/-- The selector ends at the first blank. -/
def split (text : String) : PatternParts :=
  match cutAtMarker text.toList with
  | (path, none) => ⟨String.ofList path, none, ""⟩
  | (path, some (k, rest)) =>
    ⟨String.ofList path,
      some (k, String.ofList (rest.takeWhile fun c => !Text.isBlank c)),
      String.ofList (Text.trim (rest.dropWhile fun c => !Text.isBlank c))⟩

end Pattern

end PointSelect
