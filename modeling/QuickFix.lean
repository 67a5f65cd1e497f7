import QuickFix.Action
import QuickFix.Catalog
import QuickFix.Command.Argument
import QuickFix.Command.Options
import QuickFix.Command.Run
import QuickFix.Command.Similar
import QuickFix.Command.Usage
import QuickFix.Diagnostic.Basic
import QuickFix.Diagnostic.Decode
import QuickFix.Diagnostic.Encode
import QuickFix.Edit
import QuickFix.Json.Container
import QuickFix.Json.Fault
import QuickFix.Json.Ignored
import QuickFix.Json.Layout
import QuickFix.Json.Lexeme
import QuickFix.Json.Read
import QuickFix.Json.Record
import QuickFix.Json.Value
import QuickFix.Log.Event
import QuickFix.Log.Filter
import QuickFix.Log.Format
import QuickFix.Main
import QuickFix.Numeral.Natural
import QuickFix.Numeral.Real
import QuickFix.Numeral.Scale
import QuickFix.Numeral.Shortest
import QuickFix.Pattern.Basic
import QuickFix.Pattern.Bracket
import QuickFix.Pattern.Check
import QuickFix.Pattern.Lexeme
import QuickFix.Pattern.Read
import QuickFix.Position
import QuickFix.Proofs.Catalog.Edits
import QuickFix.Proofs.Catalog.History
import QuickFix.Proofs.Catalog.Lowering
import QuickFix.Proofs.Catalog.Message
import QuickFix.Proofs.Catalog.Order
import QuickFix.Proofs.Command.Cursor
import QuickFix.Proofs.Command.CursorText
import QuickFix.Proofs.Command.Echo
import QuickFix.Proofs.Command.Options
import QuickFix.Proofs.Command.Outcome
import QuickFix.Proofs.Command.ReadBack
import QuickFix.Proofs.Command.Spacing
import QuickFix.Proofs.Concatenation
import QuickFix.Proofs.Diagnostic.RoundTrip
import QuickFix.Proofs.Document
import QuickFix.Proofs.Fallible
import QuickFix.Proofs.Json.Decoded
import QuickFix.Proofs.Json.Lexeme
import QuickFix.Proofs.Json.Reading
import QuickFix.Proofs.Json.Record
import QuickFix.Proofs.Json.Writing
import QuickFix.Proofs.Numeral
import QuickFix.Proofs.Octets
import QuickFix.Proofs.Parentheses
import QuickFix.Proofs.Position
import QuickFix.Proofs.Revision
import QuickFix.Proofs.Rule.Basic
import QuickFix.Proofs.Rule.CaseGrammar
import QuickFix.Proofs.Rule.CaseLayout
import QuickFix.Proofs.Rule.CaseParentheses
import QuickFix.Proofs.Rule.Conversion
import QuickFix.Proofs.Rule.Edits
import QuickFix.Proofs.Rule.FieldLayout
import QuickFix.Proofs.Rule.Locality
import QuickFix.Proofs.Rule.Lowering
import QuickFix.Proofs.Rule.MatchCases
import QuickFix.Proofs.Rule.Optional
import QuickFix.Proofs.Rule.RecordFields
import QuickFix.Proofs.Rule.Respacing
import QuickFix.Proofs.Rule.Suggestion
import QuickFix.Proofs.Rule.Trigger
import QuickFix.Proofs.Rule.Wrapping
import QuickFix.Proofs.Search
import QuickFix.Proofs.Text
import QuickFix.Proofs.Trimming
import QuickFix.Proofs.Uri.Document
import QuickFix.Proofs.Uri.Encoding
import QuickFix.Proofs.Uri.Reference
import QuickFix.Rule.Application
import QuickFix.Rule.Basic
import QuickFix.Rule.Conversion
import QuickFix.Rule.MatchCases
import QuickFix.Rule.Optional
import QuickFix.Rule.RecordFields
import QuickFix.Rule.Suggestion
import QuickFix.Rule.Trigger
import QuickFix.Site
import QuickFix.Text.Alphabetic
import QuickFix.Text.Blank
import QuickFix.Text.Extender
import QuickFix.Text.Mark
import QuickFix.Text.Match
import QuickFix.Text.Number
import QuickFix.Text.Octets
import QuickFix.Text.Pieces
import QuickFix.Text.Quoted
import QuickFix.Text.Recent
import QuickFix.Text.Terminal
import QuickFix.Text.Unprintable
import QuickFix.Text.Word
import QuickFix.Uri.Address
import QuickFix.Uri.Basic
import QuickFix.Uri.Describe
import QuickFix.Uri.Path
import QuickFix.Uri.Reference
