import PointSelect.Command.Request
import PointSelect.Command.Run
import PointSelect.Command.Token
import PointSelect.Config.Basic
import PointSelect.Config.File
import PointSelect.Config.Json
import PointSelect.Config.Toml
import PointSelect.Csv
import PointSelect.Directory
import PointSelect.Event
import PointSelect.Json.Fields
import PointSelect.Json.Number
import PointSelect.Json.Reader
import PointSelect.Json.Value
import PointSelect.Json.Writer
import PointSelect.Main
import PointSelect.MatchOptions
import PointSelect.Number.Arithmetic
import PointSelect.Number.Binary64
import PointSelect.Number.Decimal
import PointSelect.Number.Hexadecimal
import PointSelect.Number.Integer
import PointSelect.Number.Layout
import PointSelect.Number.Magnitude
import PointSelect.Number.Shortest
import PointSelect.PathExpr
import PointSelect.Pattern.Basic
import PointSelect.Pattern.Comment
import PointSelect.Pattern.Error
import PointSelect.Pattern.Parts
import PointSelect.Point
import PointSelect.Point.Json
import PointSelect.PointRecord
import PointSelect.PointRecord.Csv
import PointSelect.PointRecord.File
import PointSelect.PointRecord.Json
import PointSelect.Proofs.Number.PlainText
import PointSelect.Proofs.Number.Rounding
import PointSelect.Proofs.Pattern.Comment
import PointSelect.Proofs.Pattern.Marker
import PointSelect.Proofs.Pattern.NormalForm
import PointSelect.Proofs.Pattern.Reading
import PointSelect.Proofs.Pattern.Rendering
import PointSelect.Proofs.SelectionList.Composition
import PointSelect.Proofs.SelectionList.Reading
import PointSelect.Proofs.SelectionList.Selection
import PointSelect.Proofs.SelectionList.Writing
import PointSelect.Proofs.Selector.Equality
import PointSelect.Proofs.Selector.Reading
import PointSelect.Proofs.Selector.Rendering
import PointSelect.Proofs.Session
import PointSelect.Proofs.Text.Lines
import PointSelect.Proofs.Text.Trim
import PointSelect.Regex.Blanks
import PointSelect.Regex.Class
import PointSelect.Regex.Escape
import PointSelect.Regex.Expr
import PointSelect.Regex.Fault
import PointSelect.Regex.Flags
import PointSelect.Regex.Footprint
import PointSelect.Regex.Look
import PointSelect.Regex.Matches
import PointSelect.Regex.Parser
import PointSelect.Regex.Places
import PointSelect.Regex.Shape
import PointSelect.SelectionList
import PointSelect.SelectionList.File
import PointSelect.Selector.Basic
import PointSelect.Selector.Json
import PointSelect.Selector.Parser
import PointSelect.Session
import PointSelect.Text.Blank
import PointSelect.Text.Detail
import PointSelect.Text.Lines
import PointSelect.Text.Quoted
import PointSelect.Text.Utf8
import PointSelect.Toml.Date
import PointSelect.Toml.Fields
import PointSelect.Toml.Item
import PointSelect.Toml.Numeral
import PointSelect.Toml.Quoted
import PointSelect.Toml.Reader
import PointSelect.Unicode.Age
import PointSelect.Unicode.BinaryProperty
import PointSelect.Unicode.CaseOrbit
import PointSelect.Unicode.CharSet
import PointSelect.Unicode.GeneralCategory
import PointSelect.Unicode.GraphemeBreak
import PointSelect.Unicode.LetterCase
import PointSelect.Unicode.Packed
import PointSelect.Unicode.Property
import PointSelect.Unicode.Script
import PointSelect.Unicode.ScriptExtensions
import PointSelect.Unicode.SentenceBreak
import PointSelect.Unicode.Utf8Ranges
import PointSelect.Unicode.WordBreak
import PointSelect.Proofs.Text.Utf8
import PointSelect.Proofs.Command.Stages
import PointSelect.Proofs.Directory
import PointSelect.Proofs.Command.Output
import PointSelect.Proofs.Command.Sources
import PointSelect.Proofs.Json.Document
import PointSelect.Proofs.Json.Numeral
import PointSelect.Proofs.Number.Arithmetic
import PointSelect.Proofs.Json.Number
import PointSelect.Proofs.Json.Reread
import PointSelect.Proofs.Json.ShortNumber
import PointSelect.Proofs.Number.Error
import PointSelect.Proofs.Json.FiniteNumber
import PointSelect.Proofs.PointRecord.Reread
import PointSelect.Proofs.Command.Reload
import PointSelect.Proofs.Number.Rational
import PointSelect.Proofs.Selector.Grammar
import PointSelect.Proofs.Pattern.PathMode
import PointSelect.Proofs.SelectionList.PathMode
import PointSelect.Proofs.Command.Preparation
import PointSelect.Proofs.Command.Check
import PointSelect.Proofs.Command.Search
import PointSelect.Proofs.Json.Nearest
import PointSelect.Proofs.Csv.Grammar
import PointSelect.Proofs.PointRecord.CsvText
import PointSelect.Proofs.PointRecord.JsonText
import PointSelect.Proofs.Command.Formats
import PointSelect.Proofs.Pattern.Escape
import PointSelect.Proofs.Regex.Matches
import PointSelect.Proofs.Pattern.CommentExpr
import PointSelect.Proofs.Number.Nearest
import PointSelect.Proofs.Pattern.BinIndex
import PointSelect.Proofs.Json.Compact
import PointSelect.Proofs.Selector.Reread
import PointSelect.Proofs.Number.Order
import PointSelect.Proofs.Selector.PositionRange
import PointSelect.Proofs.Selector.IndexRange
import PointSelect.Proofs.Pattern.TrailingText
import PointSelect.Proofs.Pattern.PathIndependence
import PointSelect.Proofs.Selector.UnitRange
import PointSelect.Proofs.Point.Bins
import PointSelect.Proofs.Pattern.BinRun
import PointSelect.Proofs.Pattern.Equality
import PointSelect.Proofs.Regex.Repetition
import PointSelect.Proofs.Regex.Ordered
import PointSelect.Proofs.Regex.Run
import PointSelect.Proofs.Regex.Literal
import PointSelect.Proofs.Pattern.Anchoring
import PointSelect.Proofs.Pattern.PlainName
import PointSelect.Proofs.Pattern.IndexMarker
import PointSelect.Proofs.Selector.IndexPolicy
import PointSelect.Proofs.Pattern.IndexPolicy
import PointSelect.Proofs.SelectionList.IndexPolicy
import PointSelect.Proofs.Command.Report
