import RowBind.Column.Family

/-!
# Scalar column types

The column types that hold one value each: truth values, integers, floating point
numbers, characters, texts, bytes, decimals, identifiers, dates and times.
-/

namespace RowBind

open Number Calendar

/-- The scalar column types. -/
inductive Scalar where
  | bool
  | int (kind : IntKind)
  /-- Integers of the width of a machine address, 64 bits. -/
  | word (signed : Bool)
  | float (precision : Precision)
  | char
  | text
  /-- Text that may be shared with its owner. -/
  | sharedText
  | bytes
  | decimal
  | uuid
  | date
  | time
  | timestamp
  | zoned
deriving DecidableEq, Repr

/-- The name of an integer type. -/
def Number.IntKind.name (kind : IntKind) : String :=
  (if kind.signed then "i" else "u") ++ toString kind.width.bits

namespace Scalar

/-- The integers of a machine word. -/
def wordKind (signed : Bool) : IntKind := ⟨signed, .w64⟩

/-- What a column of the type holds. -/
@[reducible]
def Content : Scalar → Type
  | bool => Bool
  | int kind => Integer kind
  | word signed => Integer (wordKind signed)
  | float precision => Binary precision
  | char => Char
  | text => String
  | sharedText => String
  | bytes => List UInt8
  | decimal => Decimal
  | uuid => Uuid
  | date => Date
  | time => TimeOfDay
  | timestamp => Timestamp
  | zoned => ZonedTimestamp

/-- The name of the type in messages. -/
def typeName : Scalar → String
  | bool => "bool"
  | int kind => kind.name
  | word signed => if signed then "isize" else "usize"
  | float .single => "f32"
  | float .double => "f64"
  | char => "char"
  | text => "alloc::string::String"
  | sharedText => "alloc::borrow::Cow<'_, str>"
  | bytes => "alloc::boxed::Box<[u8]>"
  | decimal => "rust_decimal::decimal::Decimal"
  | uuid => "uuid::Uuid"
  | date => "time::date::Date"
  | time => "time::time::Time"
  | timestamp => "time::plain_date_time::PlainDateTime"
  | zoned => "time::offset_date_time::OffsetDateTime"

/-- Zero, no text, the start of the year 1970. -/
def blank : (s : Scalar) → s.Content
  | bool => false
  | int kind => .zero kind
  | word signed => .zero (wordKind signed)
  | float precision => .zero precision
  | char => '\x00'
  | text => ""
  | sharedText => ""
  | bytes => []
  | decimal => .zero
  | uuid => .nil
  | date => .epoch
  | time => .midnight
  | timestamp => .epoch
  | zoned => .epoch

/-- The typed null of the type. -/
def nullValue : Scalar → Value
  | bool => .bool none
  | int kind => .int kind none
  | word signed => .int (wordKind signed) none
  | float precision => .float precision none
  | char => .char none
  | text => .text none
  | sharedText => .text none
  | bytes => .bytes none
  | decimal => .decimal none 0 0
  | uuid => .uuid none
  | date => .date none
  | time => .time none
  | timestamp => .timestamp none
  | zoned => .zoned none

end Scalar

end RowBind
