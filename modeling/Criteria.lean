import Criteria.Calendar
import Criteria.Category
import Criteria.Comparison
import Criteria.Condition
import Criteria.Condition.Text
import Criteria.Container
import Criteria.Evaluation
import Criteria.Json
import Criteria.Log
import Criteria.ParseError
import Criteria.Pattern
import Criteria.Proofs.Building
import Criteria.Proofs.Calendar
import Criteria.Proofs.Canonical
import Criteria.Proofs.Completion
import Criteria.Proofs.Condition
import Criteria.Proofs.Enclosing
import Criteria.Proofs.Evaluation
import Criteria.Proofs.Fault
import Criteria.Proofs.Grammar
import Criteria.Proofs.Grouping
import Criteria.Proofs.Literal
import Criteria.Proofs.Meaning
import Criteria.Proofs.Name
import Criteria.Proofs.Numeral
import Criteria.Proofs.Pattern
import Criteria.Proofs.Quantity
import Criteria.Proofs.Reading
import Criteria.Proofs.RoundTrip
import Criteria.Proofs.Schema
import Criteria.Proofs.Scope
import Criteria.Proofs.Span
import Criteria.Proofs.Timestamp
import Criteria.Proofs.Value
import Criteria.Proofs.Verdict
import Criteria.Proofs.WellFormed
import Criteria.PropertyTree
import Criteria.Quantity
import Criteria.Regex.Bracket
import Criteria.Regex.CharSet
import Criteria.Regex.Escape
import Criteria.Regex.Expression
import Criteria.Regex.Matching
import Criteria.Regex.Reading
import Criteria.Regex.Size
import Criteria.SemanticError
import Criteria.Source.Failure
import Criteria.Source.Grammar
import Criteria.Source.Literal
import Criteria.Source.Token
import Criteria.Stored
import Criteria.Text.Blank
import Criteria.Text.Numeral
import Criteria.Timestamp
import Criteria.Timestamp.Reading
import Criteria.Unicode.Age
import Criteria.Unicode.CaseFolding
import Criteria.Unicode.GeneralCategory
import Criteria.Unicode.Named
import Criteria.Unicode.Property
import Criteria.Unicode.Ranges
import Criteria.Unicode.Script
import Criteria.Unicode.Segmentation
import Criteria.Value
import Criteria.Value.Error
import Criteria.Version
import Criteria.Proofs.PropertyTree
import Criteria.Proofs.Equality
import Criteria.Proofs.Mention
import Criteria.Proofs.Instant
import Criteria.Proofs.VersionOrder
import Criteria.Proofs.TimestampForm
import Criteria.Proofs.TimestampSpelling
import Criteria.Proofs.Operator
import Criteria.Proofs.Amount
import Criteria.Proofs.QuantityForm
import Criteria.Proofs.VersionNumber
import Criteria.Proofs.Array
import Criteria.Proofs.Events
import Criteria.Proofs.Limit
import Criteria.Proofs.Height
import Criteria.Proofs.Classification
import Criteria.Proofs.Stopping
import Criteria.Proofs.Expectation
import Criteria.Proofs.Position
import Criteria.Proofs.Diagnostic
import Criteria.Proofs.Editing
import Criteria.Proofs.CharSet
import Criteria.Proofs.ByteSequence
import Criteria.Proofs.Matching
