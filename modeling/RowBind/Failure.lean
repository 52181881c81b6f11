import RowBind.Value.Shown
import RowBind.Text.Excerpt
import RowBind.Calendar.Pattern
import RowBind.Uuid.Form

/-!
# Failures

A failure is its cause and what was being done when it arose, the outermost activity
first.  The message of a failure joins them with colons.  What a message quotes of an
input is an excerpt of it.
-/

namespace RowBind

open Text

/-- Why something failed. -/
inductive Cause where
  /-- A destination of a single column meets a result of several. -/
  | tooManyColumns (type : String) (columns : Nat)
  /-- A column of the result has no field in the destination. -/
  | noField (column type : String)
  /-- The one row asked for does not exist. -/
  | noRow
  /-- Routing by field was forced on a type without fields. -/
  | forcedOnScalar (type : String)
  /-- The fields were asked for of a type without fields. -/
  | notRecord (type : String)
  /-- A single column meets a record that cannot be made from it. -/
  | notDecodable (type : String)
  /-- The value is not of a type that converts. -/
  | unconvertible (value : Value) (target : String)
  /-- The text is to become a character and has none or several. -/
  | notOneCharacter (value : Value)
  /-- The number lies out of the range of the type. -/
  | outOfRange (number : Int) (source target : String)
  /-- The decimal has places and is to become an integer. -/
  | notWhole (number : Number.Decimal) (target : String)
  /-- The type cannot be read from text. -/
  | unreadable (text type : String)
  /-- The text goes on behind what was read. -/
  | leftOver (text type rest : String)
  | noInteger (type text : String)
  /-- The digits go beyond 128 bits. -/
  | tooLarge (text type : String)
  /-- The opening quote of a number has no counterpart. -/
  | openQuote (type text : String)
  | noBool (text : String)
  | noFloat (text : String)
  /-- The opening quote of a text has no counterpart. -/
  | openText (text : String)
  | noDecimal (text : String)
  | noUuid (text : String)
  | noCalendar (text type : String)
  /-- The text has not the form of a floating point number. -/
  | malformedFloat
  /-- The text has not the form of an identifier. -/
  | malformedUuid (fault : Uuid.Fault)
  /-- The fields of a date or time name none. -/
  | noSuchTime (field : Calendar.Fields.Refused)
  /-- The row has fewer values than there are columns. -/
  | shortRow (values columns : Nat)
  /-- The row has more values than there are columns. -/
  | longRow (columns : Nat)
  /-- A cursor or a type of its own tells the reason in its own words. -/
  | told (text : String)

/-- The cause lies in the result and the destination as a whole, and not in a value, a
cursor or a text. -/
def Cause.isStructural : Cause → Bool
  | .tooManyColumns .. | .noField .. | .noRow | .forcedOnScalar _ | .notRecord _
  | .notDecodable _ => true
  | _ => false

/-- What was being done when a failure arose. -/
inductive Activity where
  | fetching (row : Nat)
  | assigning (column : Nat)
  | closing
  | readingFloat (text : String)
  | readingUuid (text : String)
  /-- Told in its own words. -/
  | told (text : String)
deriving DecidableEq, Repr

/-- A cause, and the activities around it, the outermost first. -/
structure Failure where
  activities : List Activity
  cause : Cause

/-- The part of an input that a message quotes. -/
def excerptOf (text : String) : String :=
  String.ofList (excerpt text.toList)

/-- The message of a cause. -/
def Cause.message : Cause → String
  | tooManyColumns type columns =>
    s!"Scannable destination type {type} cannot receive more than one column ({columns} in the result)"
  | noField column type => s!"Missing destination name `{column}` in {type}"
  | noRow => "Not found"
  | forcedOnScalar type =>
    s!"Struct scanning was forced but the destination type {type} is not a record"
  | notRecord type => s!"Destination type {type} is not a record, its fields cannot be addressed"
  | notDecodable type => s!"Destination type {type} cannot be decoded from a single column"
  | unconvertible value target => s!"Cannot convert {String.ofList value.shown} to {target}"
  | notOneCharacter value =>
    s!"Cannot convert {String.ofList value.shown} into a char, it must contain exactly one character"
  | outOfRange number source target => s!"Value {number}: {source} is out of range for {target}"
  | notWhole number target =>
    s!"Value {String.ofList number.text}: Decimal is not an integer, cannot convert it to {target}"
  | unreadable text type => s!"Cannot parse `{excerptOf text}` as {type}"
  | leftOver text type rest =>
    s!"Value `{excerptOf text}` parsed correctly as {type} but it did not consume all the input " ++
      s!"(remaining: `{excerptOf rest}`)"
  | noInteger type text => s!"Cannot extract {type} from `{excerptOf text}`"
  | tooLarge text type => s!"Value `{excerptOf text}` is out of range for {type}"
  | openQuote type text => s!"Unterminated quote while extracting {type} from `{excerptOf text}`"
  | noBool text => s!"Cannot parse boolean from `{excerptOf text}`"
  | noFloat text => s!"Cannot extract a floating point value from `{excerptOf text}`"
  | openText text => s!"Unterminated string `{excerptOf text}`"
  | noDecimal text => s!"Cannot extract Decimal from `{excerptOf text}`"
  | noUuid text => s!"Cannot extract a uuid value from `{excerptOf text}`"
  | noCalendar text type => s!"Cannot extract from `{excerptOf text}` as {type}"
  | malformedFloat => "error while parsing a float"
  | malformedUuid fault => fault.message
  | noSuchTime field => field.message ++ ": " ++ field.message
  | shortRow values columns => s!"The row has {values} values but {columns} columns were expected"
  | longRow columns => s!"The row has more values than the {columns} columns expected"
  | told text => text

/-- The message of an activity. -/
def Activity.message : Activity → String
  | fetching row => s!"While fetching row {row}"
  | assigning column => s!"While assigning column {column}"
  | closing => "While closing the cursor"
  | readingFloat text => (Cause.noFloat text).message
  | readingUuid text => (Cause.noUuid text).message
  | told text => text

namespace Failure

/-- The failure of a cause alone. -/
def of (cause : Cause) : Failure := ⟨[], cause⟩

/-- The failure, while doing something more. -/
def within (failure : Failure) (activity : Activity) : Failure :=
  { failure with activities := activity :: failure.activities }

/-- The activities and the cause, from the outermost to the innermost. -/
def message (failure : Failure) : String :=
  failure.activities.foldr (fun activity rest => activity.message ++ ": " ++ rest)
    failure.cause.message

/-- The failure means that the one row asked for does not exist. -/
def isNoRow (failure : Failure) : Bool :=
  match failure.cause with
  | .noRow => true
  | _ => false

end Failure

/-- A result, or why there is none. -/
abbrev Outcome (α : Type) := Except Failure α

/-- There is no result for the given cause. -/
def failFor {α : Type} (cause : Cause) : Outcome α :=
  .error (.of cause)

end RowBind
