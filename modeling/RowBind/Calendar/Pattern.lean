import RowBind.Calendar.Date
import RowBind.Number.Digits

/-!
# Patterns of dates and times

A pattern is a sequence of fields and fixed characters; `Pattern.read` matches it against
the start of a text.  Every field has its width: two digits, but four for the year after
an optional sign, a sign and two digits for the hours of an offset, and from one to 32
digits for a fraction of a second, of which nine count.  A field out of its range is no
match.  Whether the matched fields name a day and a time is decided afterwards.

Main statements: `readDigits_append`, digits of the right number are read whatever
follows, and `literal_read`, a fixed character stands for itself.
-/

namespace RowBind.Calendar

open RowBind.Number

/-- One element of a pattern. -/
inductive PatternItem where
  | year | month | day | hour | minute | second | fraction | offsetHour | offsetMinute
  | literal (c : Char)
deriving DecidableEq, Repr

/-- A pattern of fields and fixed characters. -/
abbrev Pattern := List PatternItem

/-- The fields matched so far, with those of no field at zero. -/
structure Fields where
  year : Int := 0
  month : Nat := 1
  day : Nat := 1
  hour : Nat := 0
  minute : Nat := 0
  second : Nat := 0
  nanosecond : Nat := 0
  offsetNegative : Bool := false
  offsetHour : Nat := 0
  offsetMinute : Nat := 0
deriving DecidableEq, Repr

/-- Reads exactly `count` digits. -/
def readDigits (count : Nat) (text : List Char) : Option (Nat × List Char) :=
  let digits := text.take count
  if digits.length = count ∧ digits.all isDigit then some (natOfDigits digits, text.drop count)
  else none

theorem readDigits_append {digits : List Char} (h : digits.all isDigit = true) (rest : List Char) :
    readDigits digits.length (digits ++ rest) = some (natOfDigits digits, rest) := by
  simp [readDigits, h]

/-- Reads exactly `count` digits of a number from `least` to `greatest`. -/
def readField (count least greatest : Nat) (text : List Char) : Option (Nat × List Char) :=
  match readDigits count text with
  | some (n, rest) => if least ≤ n ∧ n ≤ greatest then some (n, rest) else none
  | none => none

/-- The nanoseconds written by the digits of a fraction, of which the first nine count. -/
def nanosecondsOf (digits : List Char) : Nat :=
  natOfDigits ((digits ++ List.replicate 9 '0').take 9)

/-- Reads a year: an optional sign and four digits. -/
def readYear (text : List Char) : Option (Int × List Char) :=
  let (sign, body) := splitSign text
  (readDigits 4 body).map fun (n, rest) => (if sign = some '-' then -(n : Int) else n, rest)

/-- Reads the hours of an offset: a sign, whether it is a minus, and two digits. -/
def readOffsetHour (text : List Char) : Option ((Bool × Nat) × List Char) :=
  match splitSign text with
  | (some sign, body) => (readField 2 0 25 body).map fun (n, rest) => ((sign == '-', n), rest)
  | (none, _) => none

/-- Matches one element of a pattern at the start of a text. -/
def PatternItem.read (item : PatternItem) (fields : Fields) (text : List Char) :
    Option (Fields × List Char) :=
  match item with
  | .year => (readYear text).map fun (n, rest) => ({ fields with year := n }, rest)
  | .month => (readField 2 1 12 text).map fun (n, rest) => ({ fields with month := n }, rest)
  | .day => (readField 2 1 31 text).map fun (n, rest) => ({ fields with day := n }, rest)
  | .hour => (readField 2 0 23 text).map fun (n, rest) => ({ fields with hour := n }, rest)
  | .minute => (readField 2 0 59 text).map fun (n, rest) => ({ fields with minute := n }, rest)
  | .second => (readField 2 0 60 text).map fun (n, rest) => ({ fields with second := n }, rest)
  | .fraction =>
    match (text.take 32).takeWhile isDigit with
    | [] => none
    | digits => some ({ fields with nanosecond := nanosecondsOf digits }, text.drop digits.length)
  | .offsetHour =>
    (readOffsetHour text).map fun ((negative, n), rest) =>
      ({ fields with offsetNegative := negative, offsetHour := n }, rest)
  | .offsetMinute =>
    (readField 2 0 59 text).map fun (n, rest) => ({ fields with offsetMinute := n }, rest)
  | .literal c =>
    match text with
    | t :: rest => if t = c then some (fields, rest) else none
    | [] => none

theorem literal_read (c : Char) (fields : Fields) (rest : List Char) :
    (PatternItem.literal c).read fields (c :: rest) = some (fields, rest) := by
  simp [PatternItem.read]

/-- Matches the elements of a pattern one after the other. -/
def Pattern.readFrom : List PatternItem → Fields → List Char → Option (Fields × List Char)
  | [], fields, text => some (fields, text)
  | item :: items, fields, text =>
    match item.read fields text with
    | some (fields, rest) => Pattern.readFrom items fields rest
    | none => none

/-- Matches a pattern at the start of a text: the fields, and the text behind them. -/
def Pattern.read (pattern : Pattern) (text : List Char) : Option (Fields × List Char) :=
  Pattern.readFrom pattern {} text

namespace Fields

/-- The day that the fields name, if there is one. -/
def date? (fields : Fields) : Option Date :=
  Date.ofFields? fields.year fields.month fields.day

/-- The time of day that the fields name, if there is one. -/
def time? (fields : Fields) : Option TimeOfDay :=
  TimeOfDay.ofFields? fields.hour fields.minute fields.second fields.nanosecond

/-- The day and time that the fields name, if both exist. -/
def timestamp? (fields : Fields) : Option Timestamp := do
  some ⟨← fields.date?, ← fields.time?⟩

/-- The offset that the fields name; its sign applies to the hours and the minutes. -/
def offset? (fields : Fields) : Option Offset :=
  let seconds : Int := fields.offsetHour * 3600 + fields.offsetMinute * 60
  Offset.ofSeconds? (if fields.offsetNegative then -seconds else seconds)

/-- The zoned timestamp that the fields name, if all its parts exist. -/
def zoned? (fields : Fields) : Option ZonedTimestamp := do
  some ⟨← fields.timestamp?, ← fields.offset?⟩

/-- A field that keeps the others from naming a day or a time. -/
inductive Refused where
  /-- The month has no such day. -/
  | day
  /-- The minute has no such second. -/
  | second
deriving DecidableEq, Repr

/-- What is said of such a field. -/
def Refused.message : Refused → String
  | day => "day was not in range"
  | second => "second was not in range"

/-- The field that is at fault where the fields name no value; the day is looked at
first. -/
def refused (fields : Fields) : Refused :=
  if fields.date?.isNone then .day else .second

end Fields

/-! ## The patterns in use, in the order in which they are tried -/

/-- Year, month and day, with hyphens. -/
def dayItems : Pattern :=
  [.year, .literal '-', .month, .literal '-', .day]

/-- Hour and minute. -/
def minuteItems : Pattern :=
  [.hour, .literal ':', .minute]

/-- Hour, minute and second. -/
def secondItems : Pattern :=
  minuteItems ++ [.literal ':', .second]

/-- Hour, minute, second and a fraction. -/
def fractionItems : Pattern :=
  secondItems ++ [.literal '.', .fraction]

/-- Hours and minutes of an offset. -/
def offsetItems : Pattern :=
  [.offsetHour, .literal ':', .offsetMinute]

/-- A date. -/
def datePatterns : List Pattern :=
  [dayItems]

/-- A time of day, with a fraction, without it, and without seconds. -/
def timePatterns : List Pattern :=
  [fractionItems, secondItems, minuteItems]

/-- A date and a time of day with seconds, joined by a `T` or by a space. -/
def timestampPatterns : List Pattern :=
  ['T', ' '].flatMap fun joint =>
    [fractionItems, secondItems].map fun clock => dayItems ++ .literal joint :: clock

/-- A timestamp followed by an offset. -/
def zonedPatterns : List Pattern :=
  timestampPatterns.map (· ++ offsetItems)

end RowBind.Calendar
