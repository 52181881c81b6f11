import RowBind.Text.CodeRanges
import RowBind.Text.Blank
import RowBind.Text.Alphanumeric
import RowBind.Text.Visible
import RowBind.Text.LetterCase
import RowBind.Number.Digits
import RowBind.Number.Binary
import RowBind.Number.Shortest
import RowBind.Number.BinaryText
import RowBind.Number.DecimalBinary
import RowBind.Calendar.Text
import RowBind.Calendar.Pattern
import RowBind.Uuid
import RowBind.Text.Excerpt
import RowBind.Value.Shown
import RowBind.Column.Family
import RowBind.Column.Scalar.Convert
import RowBind.Column.Type
import RowBind.Catalog.SelfDecoding
import RowBind.Route
import RowBind.Declaration
import RowBind.Catalog.Records
import RowBind.Cursor.Any
import RowBind.Cursor.Recorded
import RowBind.Reader.Rows
import RowBind.Conformance
import RowBind.Reader.Step
import RowBind.Reader.Calls
import RowBind.Proofs.Reader.Closing
import RowBind.Proofs.Reader.SingleRow
import RowBind.Proofs.Reader.ByField
import RowBind.Proofs.Reader.Collecting
import RowBind.Proofs.Reader.FirstFailure
import RowBind.Proofs.Reader.Asking
import RowBind.Proofs.Reader.UnreadList
import RowBind.Proofs.Cursor.Alike
import RowBind.Cursor.Attended
import RowBind.Proofs.Cursor.Sending
import RowBind.Proofs.Reader.Interchange
import RowBind.Proofs.Reader.InOrder
import RowBind.Proofs.Record.Numbering
import RowBind.Proofs.Naming.BreadthFirst
import RowBind.Proofs.Reader.Shape
import RowBind.Proofs.Reader.SlotCount
import RowBind.Proofs.Column.Pieces
import RowBind.Proofs.Column.NumberText
import RowBind.Proofs.Column.DigitNeeded
import RowBind.Proofs.Column.NumberValues
import RowBind.Proofs.Cursor.Delivery
import RowBind.Proofs.Reader.WaysAgree
import RowBind.Proofs.Route.Claiming
import RowBind.Proofs.Column.QuotedText
import RowBind.Proofs.Column.DateText
import RowBind.Proofs.Column.UntypedText
import RowBind.Proofs.Reader.Reordering
import RowBind.Proofs.Cursor.PageAccount
import RowBind.Proofs.Reader.RefusedRow
import RowBind.Proofs.Naming.Renaming
import RowBind.Proofs.Reader.Unmatched
import RowBind.Proofs.Column.Nulls
import RowBind.Proofs.Value.Equality
import RowBind.Proofs.Declaration.Dropped
import RowBind.Proofs.Declaration.AnyOrder
import RowBind.Proofs.Naming.LowerCase
import RowBind.Proofs.Naming.Sharing
import RowBind.Proofs.Column.Messages
