/-!
# Dates, times of day and timestamps

The Gregorian calendar, extended to the years from -9999 to 9999.  A date and a time of
day hold valid fields only.  A zoned timestamp keeps its local fields beside the offset
of its zone; two of them are the same instant when the local times less the offsets are.

Main statement: `Date.ofFields?_eq_some_iff`, a date is accepted exactly when its day
exists.
-/

namespace RowBind.Calendar

attribute [local instance (high)] instPowNat

/-- The year has a 29th of February. -/
def isLeap (year : Int) : Bool :=
  year % 4 == 0 && (year % 100 != 0 || year % 400 == 0)

/-- The number of days of a month. -/
def daysIn (year : Int) (month : Nat) : Nat :=
  if month = 2 then (if isLeap year then 29 else 28)
  else if month = 4 ∨ month = 6 ∨ month = 9 ∨ month = 11 then 30
  else 31

/-- The fields name a day of the calendar. -/
def IsDay (year : Int) (month day : Nat) : Prop :=
  (-9999 ≤ year ∧ year ≤ 9999) ∧ (1 ≤ month ∧ month ≤ 12) ∧ 1 ≤ day ∧ day ≤ daysIn year month

instance (year : Int) (month day : Nat) : Decidable (IsDay year month day) :=
  inferInstanceAs (Decidable ((_ ∧ _) ∧ (_ ∧ _) ∧ _ ∧ _))

/-- A day of the calendar. -/
structure Date where
  year : Int
  month : Nat
  day : Nat
  isDay : IsDay year month day
deriving DecidableEq

namespace Date

/-- The date with the given fields, if there is such a day. -/
def ofFields? (year : Int) (month day : Nat) : Option Date :=
  if h : IsDay year month day then some ⟨year, month, day, h⟩ else none

theorem ofFields?_eq_some_iff {year : Int} {month day : Nat} {date : Date} :
    ofFields? year month day = some date ↔
      date.year = year ∧ date.month = month ∧ date.day = day := by
  unfold ofFields?
  constructor
  · intro h
    split at h
    · cases h; exact ⟨rfl, rfl, rfl⟩
    · cases h
  · rintro ⟨rfl, rfl, rfl⟩
    simp [date.isDay]

/-- The first of January 1970. -/
def epoch : Date := ⟨1970, 1, 1, by decide⟩

/-- The number of days from the first of March of the year 0. -/
def dayNumber (date : Date) : Int :=
  let year := if date.month ≤ 2 then date.year - 1 else date.year
  let month := (date.month + 9) % 12
  365 * year + year / 4 - year / 100 + year / 400 + ((153 * month + 2) / 5 + date.day - 1 : Nat)

end Date

/-- The parts that a second is divided into. -/
abbrev nanosecondsPerSecond : Nat := 1000000000

/-- The fields name a time of day, without leap seconds. -/
def IsTime (hour minute second nanosecond : Nat) : Prop :=
  hour < 24 ∧ minute < 60 ∧ second < 60 ∧ nanosecond < nanosecondsPerSecond

instance (hour minute second nanosecond : Nat) : Decidable (IsTime hour minute second nanosecond) :=
  inferInstanceAs (Decidable (_ ∧ _ ∧ _ ∧ _))

/-- A time of day. -/
structure TimeOfDay where
  hour : Nat
  minute : Nat
  second : Nat
  nanosecond : Nat
  isTime : IsTime hour minute second nanosecond
deriving DecidableEq

namespace TimeOfDay

/-- The time of day with the given fields, if there is one. -/
def ofFields? (hour minute second nanosecond : Nat) : Option TimeOfDay :=
  if h : IsTime hour minute second nanosecond then some ⟨hour, minute, second, nanosecond, h⟩
  else none

theorem ofFields?_eq_some_iff {hour minute second nanosecond : Nat} {time : TimeOfDay} :
    ofFields? hour minute second nanosecond = some time ↔
      time.hour = hour ∧ time.minute = minute ∧ time.second = second ∧
        time.nanosecond = nanosecond := by
  unfold ofFields?
  constructor
  · intro h
    split at h
    · cases h; exact ⟨rfl, rfl, rfl, rfl⟩
    · cases h
  · rintro ⟨rfl, rfl, rfl, rfl⟩
    simp [time.isTime]

/-- The start of the day. -/
def midnight : TimeOfDay := ⟨0, 0, 0, 0, by decide⟩

/-- The nanoseconds since midnight. -/
def nanoseconds (time : TimeOfDay) : Nat :=
  ((time.hour * 60 + time.minute) * 60 + time.second) * nanosecondsPerSecond + time.nanosecond

end TimeOfDay

/-- A date with a time of day, in no particular zone. -/
structure Timestamp where
  date : Date
  time : TimeOfDay
deriving DecidableEq

/-- The start of the year 1970. -/
def Timestamp.epoch : Timestamp := ⟨Date.epoch, TimeOfDay.midnight⟩

/-- The seconds can be the offset of a zone: less than 26 hours either way. -/
def IsOffset (seconds : Int) : Prop :=
  seconds.natAbs < 26 * 3600

instance (seconds : Int) : Decidable (IsOffset seconds) :=
  inferInstanceAs (Decidable (_ < _))

/-- The distance of a zone's local time from universal time. -/
structure Offset where
  seconds : Int
  isOffset : IsOffset seconds
deriving DecidableEq

namespace Offset

/-- The offset of the given number of seconds, if there is one. -/
def ofSeconds? (seconds : Int) : Option Offset :=
  if h : IsOffset seconds then some ⟨seconds, h⟩ else none

/-- No offset. -/
def utc : Offset := ⟨0, by decide⟩

end Offset

/-- A local timestamp with the offset of its zone. -/
structure ZonedTimestamp where
  localTime : Timestamp
  offset : Offset
deriving DecidableEq

namespace ZonedTimestamp

/-- The start of the year 1970, universal time. -/
def epoch : ZonedTimestamp := ⟨Timestamp.epoch, Offset.utc⟩

/-- The nanoseconds of universal time since the first of March of the year 0. -/
def instant (stamp : ZonedTimestamp) : Int :=
  (stamp.localTime.date.dayNumber * 86400 - stamp.offset.seconds) * nanosecondsPerSecond +
    stamp.localTime.time.nanoseconds

end ZonedTimestamp

end RowBind.Calendar
