import RowBind.Calendar.Written
import RowBind.Column.Layers
import RowBind.Column.Scalar.Numbers

/-!
# The column types that are read from text

Dates, times of day and the two kinds of timestamps are read by patterns.  Together with truth
values, numbers and identifiers they are the types that read a text which is not known to be
of any type yet.  Of the other types, texts and characters take such a text as it is, and
bytes refuse it.

Main statements: `CalendarType.read_eq`, dates and times are read by their patterns; and
`ParsedType.ofValue_wrap_untyped`, what is not known yet is read as a whole, also behind layers.
-/

namespace RowBind

open Number Calendar

/-- The types of dates and times. -/
inductive CalendarType where
  | date | time | timestamp | zoned
deriving DecidableEq, Repr

namespace CalendarType

/-- The type of dates or times among the scalar types. -/
def scalar : CalendarType → Scalar
  | date => .date
  | time => .time
  | timestamp => .timestamp
  | zoned => .zoned

/-- The patterns of the type, in the order in which they are tried. -/
def patterns : CalendarType → List Pattern
  | date => datePatterns
  | time => timePatterns
  | timestamp => timestampPatterns
  | zoned => zonedPatterns

/-- The content that the fields name, if there is one. -/
def ofFields? : (t : CalendarType) → Fields → Option (Content t.scalar)
  | date => Fields.date?
  | time => Fields.time?
  | timestamp => Fields.timestamp?
  | zoned => Fields.zoned?

/-- The fields of a content. -/
def fields : (t : CalendarType) → Content t.scalar → Fields
  | date => Date.fields
  | time => TimeOfDay.fields
  | timestamp => Timestamp.fields
  | zoned => ZonedTimestamp.fields

/-- An offset of a zone is one of whole minutes; no pattern has room for its seconds. -/
def InMinutes : (t : CalendarType) → Content t.scalar → Prop
  | zoned, content => 60 ∣ (ZonedTimestamp.offset content).seconds
  | _, _ => True

/-- Dates and times are read by their patterns. -/
theorem read_eq (t : CalendarType) (text : List Char) :
    read t.scalar text = readPatterns t.scalar.typeName t.ofFields? t.patterns text := by
  cases t <;> rfl

end CalendarType

/-- The types that read untyped text. -/
inductive ParsedType where
  | bool
  | number (t : NumberType)
  | float (precision : Precision)
  | uuid
  | calendar (t : CalendarType)
deriving DecidableEq, Repr

namespace ParsedType

/-- The type that reads untyped text among the scalar types. -/
def scalar : ParsedType → Scalar
  | bool => .bool
  | number t => t.scalar
  | float precision => .float precision
  | uuid => .uuid
  | calendar t => t.scalar

/-- What is not known yet is read as a whole. -/
theorem ofValue_untyped (t : ParsedType) (text : List Char) :
    ofValue t.scalar (.untyped (some (String.ofList text))) = readAll t.scalar text := by
  have hread (s : Scalar) : s.readAll (String.ofList text) = readAll s text := by
    rw [Scalar.readAll, String.toList_ofList]
    rfl
  cases t with
  | bool | float | uuid => exact hread _
  | number t => obtain (kind | signed) | _ := t <;> exact hread _
  | calendar t => cases t <;> exact hread _

/-- Behind layers it is read as a whole by the type behind them. -/
theorem ofValue_wrap_untyped (t : ParsedType) {layers : List Layer} {text : List Char}
    {content : Content (ColumnType.wrap t.scalar layers)} :
    ofValue (ColumnType.wrap t.scalar layers) (.untyped (some (String.ofList text))) =
        .ok content ↔
      ∃ inner, read t.scalar text = .ok (inner, []) ∧
        ColumnType.present layers inner = content := by
  have hvalue : (Value.untyped (some (String.ofList text))).isNull = false := rfl
  have heq : ofValue (ColumnType.wrap t.scalar layers) (.untyped (some (String.ofList text))) =
      (readAll t.scalar text).map (ColumnType.present layers) := by
    rw [← t.ofValue_untyped text]
    exact ColumnType.ofValue_wrap_eq hvalue
  rw [heq]
  simp only [← readAll_eq_ok_iff]
  cases readAll t.scalar text <;> simp [Except.map]

end ParsedType

end RowBind
