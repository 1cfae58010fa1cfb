import Verdict.Approval.Basic
import Verdict.Approval.Interpretation
import Verdict.Decimal.Binary
import Verdict.Decimal.Layout
import Verdict.Decimal.Numeral
import Verdict.Decimal.Rational
import Verdict.Decimal.Shortest
import Verdict.Error
import Verdict.Evaluation.Batch
import Verdict.Evaluation.Calculation
import Verdict.Evaluation.Combination
import Verdict.Evaluation.Condition
import Verdict.Evaluation.Effect
import Verdict.Evaluation.Options
import Verdict.Evaluation.Summary
import Verdict.Expression.Basic
import Verdict.Expression.Evaluation
import Verdict.Expression.Grammar
import Verdict.Expression.Lexeme
import Verdict.Expression.Lexer
import Verdict.Expression.Parser
import Verdict.Expression.Token
import Verdict.Http.MediaType
import Verdict.Http.Query
import Verdict.Http.Route
import Verdict.Http.Site
import Verdict.Http.Task
import Verdict.Json.Basic
import Verdict.Json.Comparison
import Verdict.Json.Content
import Verdict.Json.Decoding
import Verdict.Json.Form
import Verdict.Json.Numeral
import Verdict.Json.Printer
import Verdict.Json.Reader
import Verdict.Proofs.Expression.Completeness
import Verdict.Proofs.Expression.Composition
import Verdict.Proofs.Expression.Evaluation
import Verdict.Proofs.Expression.Lexing
import Verdict.Proofs.Expression.Nesting
import Verdict.Proofs.Expression.Soundness
import Verdict.Proofs.Outcome
import Verdict.Proofs.Rule.Validation
import Verdict.Proofs.Store.Compilation
import Verdict.Proofs.Store.Invariant
import Verdict.Proofs.Store.Operations
import Verdict.Proofs.Store.Order
import Verdict.Proofs.Store.Ties
import Verdict.Record.Path
import Verdict.Rule.Basic
import Verdict.Rule.Decoding
import Verdict.Rule.Encoding
import Verdict.Rule.Intake
import Verdict.Rule.Shape
import Verdict.Rule.Validation
import Verdict.Service.Basic
import Verdict.Service.Counter
import Verdict.Service.History
import Verdict.Service.Operation
import Verdict.Settings
import Verdict.Store.Basic
import Verdict.Store.Change
import Verdict.Store.Snapshot
import Verdict.Text.Blank
import Verdict.Text.Digits
import Verdict.Text.Percent
import Verdict.Text.Quoted
import Verdict.Text.Segments
import Verdict.Text.Unprintable
import Verdict.Time.Calendar
import Verdict.Time.Instant
import Verdict.Time.Reader
import Verdict.Proofs.Evaluation.Stopping
import Verdict.Proofs.Json.Decoding
import Verdict.Proofs.Json.Form
import Verdict.Proofs.Rule.Reading
import Verdict.Proofs.Rule.Shape
import Verdict.Proofs.Rule.RoundTrip
import Verdict.Proofs.Store.Saving
import Verdict.Proofs.Store.Alignment
import Verdict.Proofs.Evaluation.Diagnosis
import Verdict.Proofs.Evaluation.Noninterference
import Verdict.Proofs.Evaluation.Frame
import Verdict.Proofs.Service.Isolation
import Verdict.Proofs.Service.Accounting
import Verdict.Proofs.Service.Failure
import Verdict.Proofs.Http.Rejection
import Verdict.Proofs.Approval.Interpretation
import Verdict.Proofs.Text.Percent
import Verdict.Proofs.Rule.Patching
import Verdict.Proofs.Service.Editing
import Verdict.Proofs.Http.RuleAddress
import Verdict.Evaluation.Schedule
import Verdict.Proofs.Evaluation.Batch
import Verdict.Proofs.Service.Retention
import Verdict.Proofs.Approval.Loading
import Verdict.Proofs.Decimal.Parts
import Verdict.Proofs.Decimal.Rounding
import Verdict.Proofs.Evaluation.Calculation
import Verdict.Proofs.Json.Order
import Verdict.Proofs.Record.Writing
import Verdict.Record.Assignment
import Verdict.Evaluation.InPlace
import Verdict.Proofs.Evaluation.Skipping
import Verdict.Proofs.Decimal.Value
import Verdict.Proofs.Evaluation.Target
import Verdict.Proofs.Decimal.Nearest
import Verdict.Proofs.Decimal.Conversion
import Verdict.Proofs.Json.Agreement
import Verdict.Proofs.Evaluation.Comparison
import Verdict.Proofs.Json.Reading
import Verdict.Proofs.Json.Number
import Verdict.Proofs.Evaluation.Fault
import Verdict.Proofs.Json.Equivalence
import Verdict.Proofs.Evaluation.Ordering
import Verdict.Proofs.Evaluation.Congruence
import Verdict.Proofs.Expression.Dependence
import Verdict.Proofs.Expression.Spelling
import Verdict.Proofs.Evaluation.Counterpart
import Verdict.Proofs.Decimal.Rounded
import Verdict.Proofs.Decimal.Nearness
import Verdict.Proofs.Decimal.Scientific
import Verdict.Proofs.Decimal.Quotient
import Verdict.Proofs.Time.Calendar
import Verdict.Proofs.Expression.DeliveryDays
import Verdict.Proofs.Evaluation.Combination
import Verdict.Proofs.Evaluation.FailureLines
import Verdict.Proofs.Sorting
import Verdict.Proofs.Rule.Flaws
import Verdict.Proofs.Rule.Violations
import Verdict.Proofs.Json.Replacement
import Verdict.Proofs.Rule.ConditionReading
import Verdict.Proofs.Evaluation.Restamping
import Verdict.Proofs.Store.Merging
import Verdict.Proofs.Store.Framing
import Verdict.Proofs.Store.Pausing
import Verdict.Service.Paging
import Verdict.Proofs.Service.Paging
import Verdict.Expression.Levels
import Verdict.Proofs.Expression.Height
import Verdict.Proofs.Expression.Offsets
import Verdict.Proofs.Expression.Writing
import Verdict.Proofs.Expression.Resumption
import Verdict.Proofs.Expression.Refusal
import Verdict.Proofs.Expression.Blame
import Verdict.Proofs.Record.Naming
import Verdict.Proofs.Service.Serialization
import Verdict.Proofs.Http.Answering
