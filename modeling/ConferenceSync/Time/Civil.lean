/-!
# Civil dates and instants

Dates of the proleptic Gregorian calendar, counted in days from 1970-01-01, and instants in
seconds from the start of that day. Dates reach from the year -262143 to the year 262142.

An instant within a leap second keeps the second before it and counts on in nanoseconds, from
`10 ^ 9` up to below `2 * 10 ^ 9`.

## Main definitions

* `Date` — year, month and day; `Date.of?` admits valid dates only
* `Date.toDays`, `Date.ofDays` — the calendar as a count of days and back
* `weekdayOfDays` — the day of the week
* `Instant` — seconds and nanoseconds; `Instant.millis` rounds down to milliseconds
* `Instant.ofLocal?` — the instant that a local time with an offset denotes
-/

namespace ConferenceSync.Time

/-- A date of the Gregorian calendar. The year before 1 is 0; months and days count from 1. -/
structure Date where
  year : Int
  month : Nat
  day : Nat
  deriving DecidableEq, Repr

/-- Whether a year has a 29th of February. -/
def isLeapYear (y : Int) : Bool :=
  y % 4 == 0 && (y % 100 != 0 || y % 400 == 0)

/-- The number of days of a month. -/
def daysInMonth (y : Int) (m : Nat) : Nat :=
  if m = 2 then if isLeapYear y then 29 else 28
  else if m = 4 ∨ m = 6 ∨ m = 9 ∨ m = 11 then 30
  else 31

/-- The first year of the calendar. -/
def minYear : Int := -262143

/-- The last year of the calendar. -/
def maxYear : Int := 262142

namespace Date

/-- The date with the given year, month and day, if there is one. -/
def of? (year : Int) (month day : Nat) : Option Date :=
  if minYear ≤ year ∧ year ≤ maxYear ∧ 1 ≤ month ∧ month ≤ 12 ∧ 1 ≤ day ∧
      day ≤ daysInMonth year month then
    some ⟨year, month, day⟩
  else none

/-- The days from 1970-01-01 to a date. Years are counted from March, so that the leap day is the
last day of its year. -/
def toDays (d : Date) : Int :=
  let y := if d.month ≤ 2 then d.year - 1 else d.year
  let era := y / 400
  let yearOfEra := y - era * 400
  let monthFromMarch : Int := if d.month ≤ 2 then d.month + 9 else d.month - 3
  let dayOfYear := (153 * monthFromMarch + 2) / 5 + d.day - 1
  let dayOfEra := yearOfEra * 365 + yearOfEra / 4 - yearOfEra / 100 + dayOfYear
  era * 146097 + dayOfEra - 719468

/-- The date a number of days after 1970-01-01. -/
def ofDays (days : Int) : Date :=
  let z := days + 719468
  let era := z / 146097
  let dayOfEra := z - era * 146097
  let yearOfEra := (dayOfEra - dayOfEra / 1460 + dayOfEra / 36524 - dayOfEra / 146096) / 365
  let dayOfYear := dayOfEra - (365 * yearOfEra + yearOfEra / 4 - yearOfEra / 100)
  let monthFromMarch := (5 * dayOfYear + 2) / 153
  let day := dayOfYear - (153 * monthFromMarch + 2) / 5 + 1
  let month := if monthFromMarch < 10 then monthFromMarch + 3 else monthFromMarch - 9
  let year := yearOfEra + era * 400
  ⟨if month ≤ 2 then year + 1 else year, month.toNat, day.toNat⟩

example : toDays ⟨1970, 1, 1⟩ = 0 ∧ toDays ⟨2000, 2, 29⟩ = 11016 ∧ ofDays 11016 = ⟨2000, 2, 29⟩ ∧
    ofDays (-1) = ⟨1969, 12, 31⟩ := by decide

end Date

/-- The days of the calendar. -/
def isCalendarDay (days : Int) : Bool :=
  Date.toDays ⟨minYear, 1, 1⟩ ≤ days && days ≤ Date.toDays ⟨maxYear, 12, 31⟩

/-- The day of the week: 0 is Sunday, 6 is Saturday. -/
def weekdayOfDays (days : Int) : Nat :=
  ((days + 4) % 7).toNat

/-- A time of day; in a leap second the nanoseconds go on from `10 ^ 9`. -/
structure TimeOfDay where
  hour : Nat
  minute : Nat
  second : Nat
  nanosecond : Nat
  deriving DecidableEq, Repr

/-- The time of day with the given parts, where second 60 is a leap second. -/
def TimeOfDay.of? (hour minute second nanosecond : Nat) : Option TimeOfDay :=
  if hour ≤ 23 ∧ minute ≤ 59 ∧ second ≤ 60 ∧ nanosecond < 1000000000 then
    if second = 60 then some ⟨hour, minute, 59, 1000000000 + nanosecond⟩
    else some ⟨hour, minute, second, nanosecond⟩
  else none

/-- An instant: seconds from 1970-01-01T00:00:00Z, and nanoseconds after them. -/
structure Instant where
  seconds : Int
  nanoseconds : Nat
  deriving DecidableEq, Repr

namespace Instant

/-- The instant in whole milliseconds, rounded down. -/
def millis (t : Instant) : Int :=
  t.seconds * 1000 + (t.nanoseconds / 1000000 : Nat)

/-- The instant of a number of milliseconds, if its day is one of the calendar. -/
def ofMillis? (millis : Int) : Option Instant :=
  let seconds := millis / 1000
  if isCalendarDay (seconds / 86400) then some ⟨seconds, (millis % 1000).toNat * 1000000⟩ else none

/-- The instant that a local date and time denote, `offset` seconds east of Greenwich, if its day
is one of the calendar. -/
def ofLocal? (date : Date) (time : TimeOfDay) (offset : Int) : Option Instant :=
  let seconds := date.toDays * 86400 + (time.hour * 3600 + time.minute * 60 + time.second : Nat) -
    offset
  if isCalendarDay (seconds / 86400) then some ⟨seconds, time.nanosecond⟩ else none

end Instant

end ConferenceSync.Time
