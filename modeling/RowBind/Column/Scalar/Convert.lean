import RowBind.Column.Scalar.Read
import RowBind.Number.DecimalBinary

/-!
# Converting values to scalars

A scalar type accepts the values of its own type, the numeric types accept other numbers
whose exact value they can hold, and untyped text is read as a whole.  Null converts to
no scalar.

Main statements: `Scalar.ofValue_of_isNull`, every null is refused; and `integerOfValue_int`
with `integerOfValue_decimal`, an integer or a decimal converts to an integer type exactly as
its number fits.
-/

namespace RowBind

open Number Calendar Text

/-- The failure that a value does not convert to the target. -/
def refuse {α : Type} (value : Value) (target : String) : Outcome α :=
  failFor (.unconvertible value target)

/-- A content that may be missing, or else the refusal of the value. -/
def orRefuse {α : Type} (value : Value) (target : String) : Option α → Outcome α
  | some a => .ok a
  | none => refuse value target

/-- Converts a value to an integer type: integers of every width and whole decimals by
their number, untyped text by reading it. -/
def integerOfValue (kind : IntKind) (type : String)
    (readAll : String → Outcome (Integer kind)) (value : Value) : Outcome (Integer kind) :=
  match value with
  | .int source (some i) => narrow kind type source.name i.val
  | .decimal (some d) _ _ =>
    if d.isInteger then narrow kind type "Decimal" d.truncate else failFor (.notWhole d type)
  | .untyped (some text) => readAll text
  | _ => refuse value type

/-- Converts a value to a truth value: an integer is true unless it is zero. -/
def boolOfValue (readAll : String → Outcome Bool) (value : Value) : Outcome Bool :=
  match value with
  | .bool (some b) => .ok b
  | .int _ (some i) => .ok (i.val != 0)
  | .untyped (some text) => readAll text
  | _ => refuse value "bool"

/-- Every number of the integer type is a number of the precision: up to 16 bits in
single precision, up to 32 bits in double precision. -/
def fitsPrecision (kind : IntKind) : Precision → Bool
  | .single => kind.width.bits ≤ 16
  | .double => kind.width.bits ≤ 32

/-- Converts a value to a floating point number. -/
def floatOfValue (p : Precision) (type : String)
    (readAll : String → Outcome (Binary p)) (value : Value) : Outcome (Binary p) :=
  match value with
  | .float _ (some x) => .ok (x.convert p)
  | .int kind (some i) =>
    if fitsPrecision kind p then .ok (.ofInt p i.val) else refuse value type
  | .decimal (some d) _ _ => .ok (d.toBinary.convert p)
  | .untyped (some text) => readAll text
  | _ => refuse value type

/-- The only character of a text, or the failure that there are none or several. -/
def onlyChar (value : Value) (text : String) : Outcome Char :=
  match text.toList with
  | [c] => .ok c
  | _ => failFor (.notOneCharacter value)

/-- Converts a value to a character. -/
def charOfValue (value : Value) : Outcome Char :=
  match value with
  | .char (some c) => .ok c
  | .text (some text) => onlyChar value text
  | .untyped (some text) => onlyChar value text
  | _ => refuse value "char"

/-- Converts a value to a text; untyped text is taken as it is. -/
def textOfValue (value : Value) : Outcome String :=
  match value with
  | .text (some text) => .ok text
  | .char (some c) => .ok (String.singleton c)
  | .untyped (some text) => .ok text
  | _ => refuse value "String"

/-- Converts a value to bytes; a text has those of its UTF-8 form. -/
def bytesOfValue (value : Value) : Outcome (List UInt8) :=
  match value with
  | .bytes (some bytes) => .ok bytes
  | .text (some text) => .ok text.toUTF8.toList
  | _ => refuse value "a blob"

/-- Converts a value to a decimal. -/
def decimalOfValue (readAll : String → Outcome Decimal) (value : Value) : Outcome Decimal :=
  match value with
  | .decimal (some d) _ _ => .ok d
  | .int _ (some i) => orRefuse value "Decimal" (Decimal.ofScaled? i.val 0)
  | .float _ (some x) => orRefuse value "Decimal" (Decimal.ofBinary? x)
  | .untyped (some text) => readAll text
  | _ => refuse value "Decimal"

/-- Converts a value to an identifier; text of either kind is read. -/
def uuidOfValue (readAll : String → Outcome Uuid) (value : Value) : Outcome Uuid :=
  match value with
  | .uuid (some id) => .ok id
  | .text (some text) => readAll text
  | .untyped (some text) => readAll text
  | _ => refuse value "Uuid"

/-- Converts a value to a date or a time, `content?` being the content of its own type;
text of either kind is read. -/
def calendarOfValue {α : Type} (type : String) (content? : Value → Option α)
    (readAll : String → Outcome α) (value : Value) : Outcome α :=
  match content? value, value with
  | some a, _ => .ok a
  | none, .text (some text) => readAll text
  | none, .untyped (some text) => readAll text
  | none, _ => refuse value type

namespace Value

/-- The content of a date value. -/
def date? : Value → Option Date
  | date content => content
  | _ => none

/-- The content of a time value. -/
def time? : Value → Option TimeOfDay
  | time content => content
  | _ => none

/-- The content of a timestamp value. -/
def timestamp? : Value → Option Timestamp
  | timestamp content => content
  | _ => none

/-- The content of a zoned timestamp value. -/
def zoned? : Value → Option ZonedTimestamp
  | zoned content => content
  | _ => none

end Value

namespace Scalar

/-- Converts a value to a content of the type. -/
def ofValue : (s : Scalar) → Value → Outcome s.Content
  | bool => boolOfValue bool.readAll
  | int kind => integerOfValue kind (int kind).typeName (int kind).readAll
  | word signed => integerOfValue (wordKind signed) (word signed).typeName (word signed).readAll
  | float p => floatOfValue p (float p).typeName (float p).readAll
  | char => charOfValue
  | text => textOfValue
  | sharedText => textOfValue
  | bytes => bytesOfValue
  | decimal => decimalOfValue decimal.readAll
  | uuid => uuidOfValue uuid.readAll
  | date => calendarOfValue date.typeName Value.date? date.readAll
  | time => calendarOfValue time.typeName Value.time? time.readAll
  | timestamp => calendarOfValue timestamp.typeName Value.timestamp? timestamp.readAll
  | zoned => calendarOfValue zoned.typeName Value.zoned? zoned.readAll

instance : ColumnFamily Scalar where
  Content := Content
  typeName := typeName
  blank := blank
  nullValue := nullValue
  ofValue := ofValue
  read := read

/-- What the type is called where it refuses a value. -/
def refusedAs : Scalar → String
  | bool => "bool"
  | char => "char"
  | text => "String"
  | sharedText => "String"
  | bytes => "a blob"
  | decimal => "Decimal"
  | uuid => "Uuid"
  | s => s.typeName

end Scalar

/-! ## Null -/

section Null

variable (v : Value)

theorem integerOfValue_asNull (kind : IntKind) (type : String)
    (readAll : String → Outcome (Integer kind)) :
    integerOfValue kind type readAll v.asNull = refuse v.asNull type := by
  cases v <;> rfl

theorem boolOfValue_asNull (readAll : String → Outcome Bool) :
    boolOfValue readAll v.asNull = refuse v.asNull "bool" := by
  cases v <;> rfl

theorem floatOfValue_asNull (p : Precision) (type : String)
    (readAll : String → Outcome (Binary p)) :
    floatOfValue p type readAll v.asNull = refuse v.asNull type := by
  cases v <;> rfl

theorem charOfValue_asNull : charOfValue v.asNull = refuse v.asNull "char" := by
  cases v <;> rfl

theorem textOfValue_asNull : textOfValue v.asNull = refuse v.asNull "String" := by
  cases v <;> rfl

theorem bytesOfValue_asNull : bytesOfValue v.asNull = refuse v.asNull "a blob" := by
  cases v <;> rfl

theorem decimalOfValue_asNull (readAll : String → Outcome Decimal) :
    decimalOfValue readAll v.asNull = refuse v.asNull "Decimal" := by
  cases v <;> rfl

theorem uuidOfValue_asNull (readAll : String → Outcome Uuid) :
    uuidOfValue readAll v.asNull = refuse v.asNull "Uuid" := by
  cases v <;> rfl

theorem calendarOfValue_asNull {α : Type} (type : String) {content? : Value → Option α}
    (readAll : String → Outcome α) (hcontent : content? v.asNull = none) :
    calendarOfValue type content? readAll v.asNull = refuse v.asNull type := by
  simp only [calendarOfValue, hcontent]
  cases v <;> rfl

/-- No scalar type takes the null of any type. -/
theorem Scalar.ofValue_asNull (s : Scalar) :
    s.ofValue v.asNull = refuse v.asNull s.refusedAs := by
  cases s with
  | bool => exact boolOfValue_asNull v _
  | int kind => exact integerOfValue_asNull v kind _ _
  | word signed => exact integerOfValue_asNull v (wordKind signed) _ _
  | float p => exact floatOfValue_asNull v p _ _
  | char => exact charOfValue_asNull v
  | text => exact textOfValue_asNull v
  | sharedText => exact textOfValue_asNull v
  | bytes => exact bytesOfValue_asNull v
  | decimal => exact decimalOfValue_asNull v _
  | uuid => exact uuidOfValue_asNull v _
  | date => exact calendarOfValue_asNull v _ _ (by cases v <;> rfl)
  | time => exact calendarOfValue_asNull v _ _ (by cases v <;> rfl)
  | timestamp => exact calendarOfValue_asNull v _ _ (by cases v <;> rfl)
  | zoned => exact calendarOfValue_asNull v _ _ (by cases v <;> rfl)

/-- **A scalar type refuses every null.** -/
theorem Scalar.ofValue_of_isNull (s : Scalar) {v : Value} (h : v.isNull = true) :
    s.ofValue v = refuse v s.refusedAs := by
  have hnull := s.ofValue_asNull v
  rwa [Value.asNull_eq_self_iff.mpr h] at hnull

end Null

/-! ## Numbers -/

theorem integerOfValue_int {kind source : IntKind} {type : String}
    {readAll : String → Outcome (Integer kind)} {i : Integer source} {j : Integer kind} :
    integerOfValue kind type readAll (.int source (some i)) = .ok j ↔ j.val = i.val :=
  narrow_eq_ok_iff

theorem integerOfValue_decimal {kind : IntKind} {type : String}
    {readAll : String → Outcome (Integer kind)} {d : Decimal} {digits places : UInt8}
    {j : Integer kind} :
    integerOfValue kind type readAll (.decimal (some d) digits places) = .ok j ↔
      d.toRat = j.val := by
  rw [← Decimal.isInteger_and_truncate_eq_iff, integerOfValue]
  by_cases hwhole : d.isInteger = true
  · simp only [hwhole, if_true, true_and, narrow_eq_ok_iff]
    exact eq_comm
  · simp [hwhole, failFor]

end RowBind
