import RowBind.Calendar.Pattern
import RowBind.Calendar.Text

/-!
# Dates and times written in a pattern

A pattern that reads a date or a time can also write it: every field in the width that the
pattern reads, with zeros in front, and a fraction of a second with as many places as wanted,
up to nine.  A pattern need not have room for all of a time of day; what it has no room for is
not written.

Main statement: `Offset.ofSeconds?_eq_some_iff`, an offset of a zone is what its seconds make.
-/

namespace RowBind.Calendar

attribute [local instance (high)] instPowNat

/-! ## The fields of a value -/

/-- The fields of a date. -/
def Date.fields (date : Date) : Fields :=
  { year := date.year, month := date.month, day := date.day }

/-- The fields of a time of day. -/
def TimeOfDay.fields (time : TimeOfDay) : Fields :=
  { hour := time.hour, minute := time.minute, second := time.second,
    nanosecond := time.nanosecond }

/-- The fields of a timestamp. -/
def Timestamp.fields (stamp : Timestamp) : Fields :=
  { stamp.time.fields with
    year := stamp.date.year, month := stamp.date.month, day := stamp.date.day }

/-- The fields of a zoned timestamp; seconds of its offset are not among them. -/
def ZonedTimestamp.fields (stamp : ZonedTimestamp) : Fields :=
  { stamp.localTime.fields with
    offsetNegative := decide (stamp.offset.seconds < 0)
    offsetHour := stamp.offset.seconds.natAbs / 3600
    offsetMinute := stamp.offset.seconds.natAbs / 60 % 60 }

theorem Offset.ofSeconds?_eq_some_iff {seconds : Int} {offset : Offset} :
    Offset.ofSeconds? seconds = some offset ↔ offset.seconds = seconds := by
  unfold Offset.ofSeconds?
  constructor
  · intro h
    split at h
    · cases h; rfl
    · cases h
  · rintro rfl
    simp [offset.isOffset]

/-! ## What a pattern writes -/

/-- The part of a fraction that is written with so many places. -/
def placesOf (places nanosecond : Nat) : Nat :=
  nanosecond / 10 ^ (9 - places)

/-- What an element of a pattern writes, a fraction with the given number of places. -/
def PatternItem.text (places : Nat) (fields : Fields) : PatternItem → List Char
  | .year => (if fields.year < 0 then ['-'] else []) ++ padded 4 fields.year.natAbs
  | .month => padded 2 fields.month
  | .day => padded 2 fields.day
  | .hour => padded 2 fields.hour
  | .minute => padded 2 fields.minute
  | .second => padded 2 fields.second
  | .fraction => padded places (placesOf places fields.nanosecond)
  | .offsetHour => (if fields.offsetNegative then '-' else '+') :: padded 2 fields.offsetHour
  | .offsetMinute => padded 2 fields.offsetMinute
  | .literal c => [c]

/-- What a pattern writes, a fraction with the given number of places. -/
def Pattern.text (places : Nat) (pattern : Pattern) (fields : Fields) : List Char :=
  pattern.flatMap (PatternItem.text places fields)

/-- The pattern has room for all of the time of day among the fields: it lacks the seconds only
if there are none to write, and the fraction only if there is none, and what it has of a
fraction is long enough. -/
structure Pattern.HasRoom (places : Nat) (pattern : Pattern) (fields : Fields) : Prop where
  second : .second ∈ pattern ∨ fields.second = 0
  fraction : .fraction ∈ pattern ∧ 10 ^ (9 - places) ∣ fields.nanosecond ∨ fields.nanosecond = 0

/-- The offset and the fraction are written in full. -/
example : String.ofList (Pattern.text 3 (dayItems ++ .literal ' ' :: fractionItems ++ offsetItems)
    { year := 2024, month := 3, day := 1, hour := 9, minute := 5, nanosecond := 70000000,
      offsetNegative := true, offsetMinute := 30 }) = "2024-03-01 09:05:00.070-00:30" := by
  rfl

end RowBind.Calendar
