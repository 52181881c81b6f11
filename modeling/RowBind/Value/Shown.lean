import RowBind.Value
import RowBind.Number.Shortest
import RowBind.Calendar.Text
import RowBind.Text.Quoted

/-!
# How a value is shown

Messages show a value with the name of its type and its content: `Int32(Some(5))`,
`Varchar(None)`, `List(Some([Int32(Some(1))]), Int32(None))`.  Texts and characters are
quoted, floating point numbers have their shortest text.
-/

namespace RowBind

open Number Calendar Text

/-- The elements between square brackets, with commas. -/
def bracketed (elements : List (List Char)) : List Char :=
  '[' :: [',', ' '].intercalate elements ++ [']']

/-- A content, or that there is none. -/
def shownContent : Option (List Char) → List Char
  | none => "None".toList
  | some content => "Some(".toList ++ content ++ [')']

/-- The name of an integer type. -/
def Number.IntKind.title (kind : IntKind) : String :=
  (if kind.signed then "Int" else "UInt") ++ toString kind.width.bits

namespace Value

/-- A type's name in front of the parts of a value. -/
def shownAs (name : String) (parts : List (List Char)) : List Char :=
  name.toList ++ '(' :: [',', ' '].intercalate parts ++ [')']

mutual

/-- The value with its type and its content. -/
def shown : Value → List Char
  | null => "Null".toList
  | bool content => shownAs "Boolean" [shownContent (content.map fun b => (toString b).toList)]
  | int kind content =>
    shownAs kind.title [shownContent (content.map fun i => (toString i.val).toList)]
  | float .single content => shownAs "Float32" [shownContent (content.map Binary.text)]
  | float .double content => shownAs "Float64" [shownContent (content.map Binary.text)]
  | decimal content digits places =>
    shownAs "Decimal" [shownContent (content.map Decimal.text), natText digits.toNat,
      natText places.toNat]
  | char content => shownAs "Char" [shownContent (content.map quoteChar)]
  | text content => shownAs "Varchar" [shownContent (content.map fun s => quoteText s.toList)]
  | bytes content =>
    shownAs "Blob" [shownContent (content.map fun bytes =>
      bracketed (bytes.map fun byte => natText byte.toNat))]
  | date content => shownAs "Date" [shownContent (content.map Date.text)]
  | time content => shownAs "Time" [shownContent (content.map TimeOfDay.text)]
  | timestamp content => shownAs "Timestamp" [shownContent (content.map Timestamp.text)]
  | zoned content =>
    shownAs "TimestampWithTimezone" [shownContent (content.map ZonedTimestamp.text)]
  | uuid content => shownAs "Uuid" [shownContent (content.map Uuid.text)]
  | list none element => shownAs "List" [shownContent none, shown element]
  | list (some elements) element =>
    shownAs "List" [shownContent (some (bracketed (shownAll elements))), shown element]
  | untyped content =>
    shownAs "Unknown" [shownContent (content.map fun s => quoteText s.toList)]
termination_by structural v => v

/-- The values one by one. -/
def shownAll : List Value → List (List Char)
  | [] => []
  | v :: vs => shown v :: shownAll vs
termination_by structural vs => vs

end

end Value

end RowBind
