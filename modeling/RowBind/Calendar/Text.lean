import RowBind.Calendar.Date

/-!
# The text of dates and times

Dates are shown as `2024-02-29`, with at least four digits for the year, times of day as
`9:00:00.5`, with the hour as it is and at least one digit of the fraction, and offsets
as `+02:00:00`.
-/

namespace RowBind.Calendar

/-- A number with zeros in front of it up to `width` digits. -/
def padded (width n : Nat) : List Char :=
  let digits := Nat.toDigits 10 n
  List.replicate (width - digits.length) '0' ++ digits

/-- The date as year, month and day. -/
def Date.text (date : Date) : List Char :=
  (if date.year < 0 then ['-'] else []) ++ padded 4 date.year.natAbs ++
    '-' :: padded 2 date.month ++ '-' :: padded 2 date.day

/-- The digits of a fraction of a second, trailing zeros cut but for the first digit. -/
def fractionText (nanosecond : Nat) : List Char :=
  match ((padded 9 nanosecond).reverse.dropWhile (· == '0')).reverse with
  | [] => ['0']
  | digits => digits

/-- The time of day with its fraction of a second. -/
def TimeOfDay.text (time : TimeOfDay) : List Char :=
  Nat.toDigits 10 time.hour ++ ':' :: padded 2 time.minute ++ ':' :: padded 2 time.second ++
    '.' :: fractionText time.nanosecond

/-- The date, a space and the time of day. -/
def Timestamp.text (stamp : Timestamp) : List Char :=
  stamp.date.text ++ ' ' :: stamp.time.text

/-- The offset as sign, hours, minutes and seconds. -/
def Offset.text (offset : Offset) : List Char :=
  let seconds := offset.seconds.natAbs
  (if offset.seconds < 0 then '-' else '+') :: padded 2 (seconds / 3600) ++
    ':' :: padded 2 (seconds / 60 % 60) ++ ':' :: padded 2 (seconds % 60)

/-- The local timestamp and the offset. -/
def ZonedTimestamp.text (stamp : ZonedTimestamp) : List Char :=
  stamp.localTime.text ++ ' ' :: stamp.offset.text

end RowBind.Calendar
