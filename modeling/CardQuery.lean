import CardQuery.Arguments
import CardQuery.Calendar
import CardQuery.Card.Basic
import CardQuery.Card.Flags
import CardQuery.Card.Record
import CardQuery.Card.Stat
import CardQuery.Color
import CardQuery.Comparison
import CardQuery.Fault
import CardQuery.Field
import CardQuery.Flag
import CardQuery.Json.Access
import CardQuery.Json.Basic
import CardQuery.Json.Reader
import CardQuery.Json.Writer
import CardQuery.Main
import CardQuery.Match
import CardQuery.Number.Decimal
import CardQuery.Number.Double
import CardQuery.Number.Notation
import CardQuery.Number.Numeral
import CardQuery.Proofs.Arguments
import CardQuery.Proofs.Calendar
import CardQuery.Proofs.Calendar.Comparing
import CardQuery.Proofs.Calendar.Order
import CardQuery.Proofs.Calendar.Reading
import CardQuery.Proofs.Calendar.Week
import CardQuery.Proofs.Color
import CardQuery.Proofs.Command
import CardQuery.Proofs.Explanation.Bracketing
import CardQuery.Proofs.Explanation.Decoding
import CardQuery.Proofs.Explanation.Heading
import CardQuery.Proofs.Explanation.Leaf
import CardQuery.Proofs.Explanation.Meaning
import CardQuery.Proofs.Explanation.Outline
import CardQuery.Proofs.Filtering
import CardQuery.Proofs.Grammar.Atoms
import CardQuery.Proofs.Grammar.Composition
import CardQuery.Proofs.Grammar.Derivation
import CardQuery.Proofs.Grammar.Disjunction
import CardQuery.Proofs.Grammar.Faulting
import CardQuery.Proofs.Grammar.FirstError
import CardQuery.Proofs.Grammar.Origin
import CardQuery.Proofs.Grammar.Parametric
import CardQuery.Proofs.Grammar.Parentheses
import CardQuery.Proofs.Grammar.Pointing
import CardQuery.Proofs.Grammar.Quoting
import CardQuery.Proofs.Grammar.Reading
import CardQuery.Proofs.Grammar.Respacing
import CardQuery.Proofs.Grammar.Stopping
import CardQuery.Proofs.Grammar.Tracing
import CardQuery.Proofs.Grammar.Unreported
import CardQuery.Proofs.Grammar.ValuePosition
import CardQuery.Proofs.Json.Number
import CardQuery.Proofs.Json.Reading
import CardQuery.Proofs.Lexer.Boundary
import CardQuery.Proofs.Lexer.Cutting
import CardQuery.Proofs.Lexer.Enclosing
import CardQuery.Proofs.Lexer.Gaps
import CardQuery.Proofs.Lexer.LookBack
import CardQuery.Proofs.Lexer.OperatorWords
import CardQuery.Proofs.Lexer.Reached
import CardQuery.Proofs.Lexer.Respacing
import CardQuery.Proofs.Lexer.Signs
import CardQuery.Proofs.Lexer.Slashes
import CardQuery.Proofs.Lexer.Spelling
import CardQuery.Proofs.Lexer.Tiling
import CardQuery.Proofs.Lexer.Unexpected
import CardQuery.Proofs.Number.Notation
import CardQuery.Proofs.Number.Numeral
import CardQuery.Proofs.Number.Order
import CardQuery.Proofs.Number.Overflow
import CardQuery.Proofs.Number.Rounding
import CardQuery.Proofs.Outcome
import CardQuery.Proofs.Regex.Literal
import CardQuery.Proofs.Report
import CardQuery.Proofs.Sameness.Canonical
import CardQuery.Proofs.Sameness.Hash
import CardQuery.Proofs.Sameness.Meaning
import CardQuery.Proofs.Search
import CardQuery.Proofs.Searching.BareTerms
import CardQuery.Proofs.Searching.Faces
import CardQuery.Proofs.Searching.Literal
import CardQuery.Proofs.Searching.Pieces
import CardQuery.Proofs.Searching.Texts
import CardQuery.Proofs.Session.Recency
import CardQuery.Proofs.Session.Transparency
import CardQuery.Proofs.Stored.Normal
import CardQuery.Proofs.Stored.RoundTrip
import CardQuery.Proofs.Text.Context
import CardQuery.Proofs.Text.Digit
import CardQuery.Proofs.Text.LowerCase
import CardQuery.Proofs.Text.UpperCase
import CardQuery.Proofs.Typing.Attributes
import CardQuery.Proofs.Typing.Card
import CardQuery.Proofs.Typing.Equality
import CardQuery.Proofs.Typing.Evaluation
import CardQuery.Proofs.Typing.Faces
import CardQuery.Proofs.Typing.Loading
import CardQuery.Proofs.Typing.Printed
import CardQuery.Proofs.Typing.Query
import CardQuery.Proofs.Typing.Record
import CardQuery.Proofs.Typing.Stat
import CardQuery.Query.Basic
import CardQuery.Query.Explanation
import CardQuery.Query.Grammar
import CardQuery.Query.Hash
import CardQuery.Query.Lexer
import CardQuery.Query.Operand
import CardQuery.Query.Rejection
import CardQuery.Query.Stored
import CardQuery.Query.Token
import CardQuery.Rarity
import CardQuery.Recent
import CardQuery.Regex.Choice
import CardQuery.Regex.Error
import CardQuery.Regex.Matching
import CardQuery.Regex.Pattern
import CardQuery.Regex.Reader
import CardQuery.Regex.Syntax
import CardQuery.Report
import CardQuery.Search
import CardQuery.Session
import CardQuery.Settings
import CardQuery.Text.Blank
import CardQuery.Text.CaseClass
import CardQuery.Text.CaseTable
import CardQuery.Text.CharacterName
import CardQuery.Text.CharacterName.Alias
import CardQuery.Text.CharacterName.BasicPlane
import CardQuery.Text.CharacterName.OtherPlanes
import CardQuery.Text.Digit
import CardQuery.Text.LowerCase
import CardQuery.Text.Name
import CardQuery.Text.Piece
import CardQuery.Text.Printable
import CardQuery.Text.Quoted
import CardQuery.Text.Spans
import CardQuery.Text.UpperCase
import CardQuery.Text.Word
