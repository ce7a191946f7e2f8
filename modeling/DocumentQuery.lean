import DocumentQuery.Main
import DocumentQuery.CommandLine.Machine
import DocumentQuery.Proofs.Filter.Blocks
import DocumentQuery.Proofs.Query.Separation
import DocumentQuery.Proofs.Calendar.Date
import DocumentQuery.Proofs.Calendar.Timestamp
import DocumentQuery.Proofs.Calendar.Bounds
import DocumentQuery.Proofs.Filter.Dates
import DocumentQuery.Proofs.Json.Tokens
import DocumentQuery.Proofs.Json.ReadBack
import DocumentQuery.Proofs.Filter.Recovery
import DocumentQuery.Proofs.Query.Absence
import DocumentQuery.Proofs.Query.Order
import DocumentQuery.Proofs.Parameters.History
import DocumentQuery.Proofs.Parameters.Pairs
import DocumentQuery.Proofs.Filter.Shape
import DocumentQuery.Proofs.Calendar.Grammar
import DocumentQuery.Proofs.Binary64.Value
import DocumentQuery.Proofs.Binary64.Rounding
import DocumentQuery.Proofs.Binary64.Arithmetic
import DocumentQuery.Proofs.Pagination.Window
import DocumentQuery.Proofs.Pagination.Radix
import DocumentQuery.Proofs.Text.Blank
import DocumentQuery.Proofs.Pagination.Grammar
import DocumentQuery.Proofs.Pagination.Spelling
import DocumentQuery.Proofs.Pagination.Written
import DocumentQuery.Proofs.Parameters.Object
import DocumentQuery.Proofs.Pagination.Page
import DocumentQuery.Proofs.Filter.Repetition
import DocumentQuery.Proofs.SortOrder.Term
import DocumentQuery.Proofs.SortOrder.Precedence
import DocumentQuery.Proofs.Filter.Operands
import DocumentQuery.Proofs.Calendar.Order
import DocumentQuery.Proofs.Text.Order
import DocumentQuery.Proofs.Calendar.WrittenOrder
import DocumentQuery.Proofs.Filter.Range
import DocumentQuery.Proofs.Filter.Days
import DocumentQuery.Proofs.Correspondence
import DocumentQuery.Proofs.Parameters.Acceptance
import DocumentQuery.Proofs.Operand.Typing
import DocumentQuery.Proofs.FieldKey
import DocumentQuery.Proofs.Filter.Membership
import DocumentQuery.Proofs.Text.Integer
import DocumentQuery.Proofs.Json.FloatText
import DocumentQuery.Proofs.Filter.WholeNumbers
import DocumentQuery.Proofs.Projection
import DocumentQuery.Proofs.Settings.Layers
import DocumentQuery.Proofs.Operand.Recognisers
