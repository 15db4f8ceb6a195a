import Conform.Arguments
import Conform.Binary64.Basic
import Conform.Binary64.Digits
import Conform.Binary64.Nearest
import Conform.Calendar.Date
import Conform.Calendar.DateTime
import Conform.Calendar.Reader
import Conform.Calendar.Writer
import Conform.Config
import Conform.Definition.Basic
import Conform.Definition.Reader
import Conform.Definition.Validator
import Conform.Document
import Conform.Fault
import Conform.Files.Basic
import Conform.Files.Path
import Conform.Files.Volume
import Conform.Journal
import Conform.Json.Basic
import Conform.Json.Reader
import Conform.Json.Writer
import Conform.Limits
import Conform.Main
import Conform.Members
import Conform.Metrics
import Conform.Pattern.Basic
import Conform.Pattern.Reader
import Conform.Proofs.Absence
import Conform.Proofs.Additions
import Conform.Proofs.Binary64.Nearest
import Conform.Proofs.Binary64.Order
import Conform.Proofs.Binary64.Reading
import Conform.Proofs.Bounds
import Conform.Proofs.ByteOrder
import Conform.Proofs.Calendar.Bytes
import Conform.Proofs.Calendar.Date
import Conform.Proofs.Calendar.Instant
import Conform.Proofs.Calendar.Offset
import Conform.Proofs.Calendar.Rendering
import Conform.Proofs.Calendar.Scan
import Conform.Proofs.Calendar.Succession
import Conform.Proofs.Calendar.Suffix
import Conform.Proofs.Calendar.Text
import Conform.Proofs.Clocked
import Conform.Proofs.Declarations
import Conform.Proofs.Definition.Answer
import Conform.Proofs.Definition.Blame
import Conform.Proofs.Definition.Conformance
import Conform.Proofs.Definition.Emission
import Conform.Proofs.Definition.Leaf
import Conform.Proofs.Definition.Parts
import Conform.Proofs.Definition.Projection
import Conform.Proofs.Definition.Reader
import Conform.Proofs.Definition.Rebuilding
import Conform.Proofs.Definition.Relaxation
import Conform.Proofs.Definition.Simulation
import Conform.Proofs.Definition.Strictness
import Conform.Proofs.Definition.Trace
import Conform.Proofs.Definition.Violation
import Conform.Proofs.Definition.Widening
import Conform.Proofs.Definition.Writing
import Conform.Proofs.Directories
import Conform.Proofs.Document
import Conform.Proofs.DocumentText
import Conform.Proofs.Draws
import Conform.Proofs.Effectless
import Conform.Proofs.Files
import Conform.Proofs.Flaw
import Conform.Proofs.Journal
import Conform.Proofs.Json.Everywhere
import Conform.Proofs.Json.Finite
import Conform.Proofs.Json.Line
import Conform.Proofs.Json.Numeral
import Conform.Proofs.Json.Text
import Conform.Proofs.Ledger
import Conform.Proofs.Level
import Conform.Proofs.Limits
import Conform.Proofs.Loading
import Conform.Proofs.Location
import Conform.Proofs.MemberOrder
import Conform.Proofs.Members
import Conform.Proofs.Naming
import Conform.Proofs.Numeric
import Conform.Proofs.Pattern.Anchored
import Conform.Proofs.Pattern.Follows
import Conform.Proofs.Pattern.Items
import Conform.Proofs.Pattern.Matches
import Conform.Proofs.Pattern.Uuid
import Conform.Proofs.Paving
import Conform.Proofs.Registry
import Conform.Proofs.Reloading
import Conform.Proofs.Remainder
import Conform.Proofs.Replacement
import Conform.Proofs.Response
import Conform.Proofs.Result
import Conform.Proofs.Rule
import Conform.Proofs.Saving
import Conform.Proofs.Settings
import Conform.Proofs.Stateful
import Conform.Proofs.Temporal
import Conform.Proofs.Undisturbed
import Conform.Proofs.Value.Conversion
import Conform.Proofs.Value.Equality
import Conform.Proofs.Value.Everywhere
import Conform.Proofs.Value.Plain
import Conform.Proofs.Volume
import Conform.Proofs.Workspace
import Conform.Registry
import Conform.Rule
import Conform.Run
import Conform.Text.Blank
import Conform.Text.CaseVariant
import Conform.Text.Category
import Conform.Text.CharSet
import Conform.Text.Ranges
import Conform.Text.Script
import Conform.Validation.Alternative
import Conform.Validation.Body
import Conform.Validation.Composite
import Conform.Validation.Format
import Conform.Validation.Outline
import Conform.Validation.Property
import Conform.Validation.Range
import Conform.Validation.Scalar
import Conform.Validation.Settings
import Conform.Value.Basic
import Conform.Value.Equality
import Conform.Value.Json
import Conform.Value.Serializer
import Conform.Verdict
