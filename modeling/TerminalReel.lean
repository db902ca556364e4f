import TerminalReel.Animation.Keyframes
import TerminalReel.Animation.Layout
import TerminalReel.Animation.Part
import TerminalReel.Animation.Timeline
import TerminalReel.CommandLine.Options
import TerminalReel.CommandLine.Run
import TerminalReel.Composer.Basic
import TerminalReel.Composer.Workbench
import TerminalReel.Config.Basic
import TerminalReel.Config.Defaults
import TerminalReel.Config.Definition
import TerminalReel.Config.Error
import TerminalReel.Config.File
import TerminalReel.Config.Literal
import TerminalReel.Config.Reader
import TerminalReel.Config.Source
import TerminalReel.Config.Writer
import TerminalReel.Document.Drawing
import TerminalReel.Document.Markup
import TerminalReel.Document.Page
import TerminalReel.Document.StyleSheet
import TerminalReel.Fault
import TerminalReel.Host
import TerminalReel.Json.Basic
import TerminalReel.Json.Printer
import TerminalReel.Json.Reader
import TerminalReel.Json.Relaxed
import TerminalReel.Log
import TerminalReel.Main
import TerminalReel.Numeric.Binary64
import TerminalReel.Numeric.Decimal
import TerminalReel.Numeric.Number
import TerminalReel.Numeric.Numeral
import TerminalReel.Numeric.Rounding
import TerminalReel.Output
import TerminalReel.Schedule.Check
import TerminalReel.Schedule.Constants
import TerminalReel.Schedule.Placement
import TerminalReel.Storage.Disk
import TerminalReel.Storage.Path
import TerminalReel.Text.Basic
import TerminalReel.Text.Blank
import TerminalReel.Text.Boundaries
import TerminalReel.Text.CharacterTable
import TerminalReel.Text.Charset.Big5
import TerminalReel.Text.Charset.Big5Extensions
import TerminalReel.Text.Charset.CodePage932
import TerminalReel.Text.Charset.Gb18030
import TerminalReel.Text.Charset.Gb2312
import TerminalReel.Text.Charset.JisX0208
import TerminalReel.Text.Charset.JisX0212
import TerminalReel.Text.Charset.JisX0213
import TerminalReel.Text.Charset.KsX1001
import TerminalReel.Text.Decoding
import TerminalReel.Text.Digit
import TerminalReel.Text.Encoding
import TerminalReel.Text.Encoding.ByteReader
import TerminalReel.Text.Encoding.Chinese
import TerminalReel.Text.Encoding.CodePage
import TerminalReel.Text.Encoding.Escaped
import TerminalReel.Text.Encoding.Idna
import TerminalReel.Text.Encoding.Japanese
import TerminalReel.Text.Encoding.Korean
import TerminalReel.Text.Encoding.Switching
import TerminalReel.Text.Encoding.Utf7
import TerminalReel.Text.Hex
import TerminalReel.Text.Identifier
import TerminalReel.Text.LineEnds
import TerminalReel.Text.Lowercase
import TerminalReel.Text.Pieces
import TerminalReel.Text.Printable
import TerminalReel.Text.Quoted
import TerminalReel.Tools
import TerminalReel.Work
import TerminalReel.Proofs.Numeric.Nearest
import TerminalReel.Proofs.Numeric.Measure
import TerminalReel.Proofs.Numeric.Arithmetic
import TerminalReel.Proofs.Ending
import TerminalReel.Proofs.Schedule.Placement
import TerminalReel.Proofs.Schedule.Course
import TerminalReel.Proofs.Schedule.Order
import TerminalReel.Proofs.Animation.Grid
import TerminalReel.Proofs.Animation.Track
import TerminalReel.Proofs.Animation.Fade
import TerminalReel.Proofs.Animation.Compile
import TerminalReel.Proofs.Animation.Shape
import TerminalReel.Proofs.Animation.Exclusive
import TerminalReel.Proofs.Numeric.Numeral
import TerminalReel.Proofs.Numeric.Plain
import TerminalReel.Proofs.Animation.Parts
import TerminalReel.Proofs.Animation.Names
import TerminalReel.Proofs.Document.Percentages
import TerminalReel.Proofs.Config.RoundTrip
import TerminalReel.Proofs.Animation.Room
import TerminalReel.Proofs.Animation.Identity
import TerminalReel.Proofs.Document.Entities
import TerminalReel.Proofs.Document.Scanner
import TerminalReel.Proofs.Document.Tree
import TerminalReel.Proofs.Document.StyleText
import TerminalReel.Proofs.Document.Outline
import TerminalReel.Proofs.Document.StyleReader
import TerminalReel.Proofs.Document.Binding
import TerminalReel.Proofs.Schedule.Settled
import TerminalReel.Proofs.Animation.Settled
import TerminalReel.Proofs.Composer.Fluent
import TerminalReel.Proofs.Json.Numbers
import TerminalReel.Proofs.Json.Strings
import TerminalReel.Proofs.Json.Characters
import TerminalReel.Proofs.Json.RoundTrip
import TerminalReel.Proofs.Association
import TerminalReel.Proofs.Storage.Disk
import TerminalReel.Proofs.Config.Faults
import TerminalReel.Proofs.Composer.Saved
import TerminalReel.Proofs.Numeric.Range
import TerminalReel.Proofs.Json.Moderate
import TerminalReel.Proofs.Schedule.Range
import TerminalReel.Proofs.Animation.Range
import TerminalReel.Proofs.Document.Range
import TerminalReel.Proofs.Answers
import TerminalReel.Proofs.Document.Characters
import TerminalReel.Proofs.Document.Link
import TerminalReel.Proofs.Storage.Directories
import TerminalReel.Proofs.Output.Work
import TerminalReel.Proofs.Output.Files
import TerminalReel.Proofs.Output.Reference
import TerminalReel.Proofs.Json.Bare
import TerminalReel.Proofs.Json.Bounds
import TerminalReel.Proofs.Config.Load
import TerminalReel.Proofs.Animation.Events
import TerminalReel.Proofs.Numeric.Extended
import TerminalReel.Proofs.Schedule.Monotone
import TerminalReel.Proofs.Animation.Typing
import TerminalReel.Proofs.Agreement
import TerminalReel.Proofs.Config.Format
import TerminalReel.Proofs.Config.Places
import TerminalReel.Proofs.Config.Verdict
import TerminalReel.Proofs.Config.Edits
import TerminalReel.Proofs.Numeric.Grains
import TerminalReel.Proofs.Schedule.Finite
import TerminalReel.Proofs.Config.Accepted
import TerminalReel.Proofs.Output.Uncompiled
import TerminalReel.Proofs.Animation.Projection
import TerminalReel.Proofs.Numeric.Fewest
import TerminalReel.Proofs.Numeric.ReadBack
import TerminalReel.Proofs.Numeric.Compact
import TerminalReel.Proofs.Document.Duration
