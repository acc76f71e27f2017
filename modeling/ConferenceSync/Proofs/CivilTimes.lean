import ConferenceSync.Proofs.DayCount

/-!
# Dates and times of day

A date and a time of day denote a number of seconds from the start of the year 0. With the offset of
a zone they denote an instant, which lies as many seconds after the start of 1970 as there are
between the two, less the offset. A minute may have a leap second as its 61st; its instant keeps the
second before it and counts on in nanoseconds.

## Main definitions

* `CivilTime` — a date and a time of day, with `CivilTime.minutes` and `CivilTime.seconds`
* `CivilTime.instant` — the instant that it denotes with an offset
* `CivilTime.nanosecondsFromEpoch` — the exact number of nanoseconds from the start of 1970

## Main results

* `CivilTime.exists_ofLocal?` — reading its parts gives that instant
* `CivilTime.millis_instant` — the instant in milliseconds, rounded down
-/

namespace ConferenceSync.Time

/-- A date and a time of day. -/
structure CivilTime where
  date : Date
  hour : Nat
  minute : Nat
  second : Nat
  deriving DecidableEq, Repr

namespace CivilTime

/-- Whether there is such a time in the years from 0 on. A minute has 60 seconds, or a leap second
more. -/
structure IsValid (u : CivilTime) : Prop where
  year : 0 ≤ u.date.year
  date : u.date.IsValid
  hour : u.hour ≤ 23
  minute : u.minute ≤ 59
  second : u.second ≤ 60

/-- The number of full minutes from the start of the year 0. -/
def minutes (u : CivilTime) : Nat := (u.date.dayNumber * 24 + u.hour) * 60 + u.minute

/-- The number of seconds from the start of the year 0. -/
def seconds (u : CivilTime) : Nat := u.minutes * 60 + u.second

/-- The start of 1970. -/
def epoch : CivilTime := ⟨⟨1970, 1, 1⟩, 0, 0, 0⟩

theorem seconds_epoch : epoch.seconds = 719528 * 86400 := by
  have month : Date.daysBeforeMonth 1970 1 = 0 := by simp [Date.daysBeforeMonth]
  simp [seconds, minutes, epoch, Date.dayNumber, Date.daysBeforeYear_eq, month]

/-- The seconds that a time has beyond the 60 of its minute. -/
def leap (u : CivilTime) : Nat := if u.second = 60 then 1 else 0

/-- The instant of a time with a fraction of a second, `offset` seconds east of Greenwich. -/
def instant (u : CivilTime) (nanosecond : Nat) (offset : Int) : Instant :=
  ⟨u.seconds - u.leap - epoch.seconds - offset, u.leap * 1000000000 + nanosecond⟩

/-- The number of nanoseconds from the start of 1970 to a time with a fraction of a second, `offset`
seconds east of Greenwich. -/
def nanosecondsFromEpoch (u : CivilTime) (nanosecond : Nat) (offset : Int) : Int :=
  (u.seconds - epoch.seconds - offset) * 1000000000 + nanosecond

variable {u : CivilTime} {nanosecond : Nat}

/-- The milliseconds of an instant are all that have passed until then. -/
theorem millis_instant (u : CivilTime) (nanosecond : Nat) (offset : Int) :
    (u.instant nanosecond offset).millis = u.nanosecondsFromEpoch nanosecond offset / 1000000 := by
  dsimp only [Instant.millis, instant, nanosecondsFromEpoch]
  omega

/-- The parts of a date and a time have as many digits as they are written with. -/
structure Small (u : CivilTime) : Prop where
  year : u.date.year.toNat < 10000
  month : u.date.month < 100
  day : u.date.day < 100
  hour : u.hour < 100
  minute : u.minute < 100
  second : u.second < 100

theorem IsValid.small (valid : u.IsValid) (high : u.date.year ≤ 9999) : u.Small := by
  have months := valid.date.month
  have days := valid.date.day.2.trans (daysInMonth_le _ _)
  have clock := And.intro valid.hour (And.intro valid.minute valid.second)
  constructor <;> omega

/-- The nanoseconds from the start of 1970 by the days from there. -/
theorem nanosecondsFromEpoch_eq (valid : u.IsValid) (nanosecond : Nat) (offset : Int) :
    u.nanosecondsFromEpoch nanosecond offset =
      (u.date.toDays * 86400 + (u.hour * 3600 + u.minute * 60 + u.second : Nat) - offset) *
        1000000000 + nanosecond := by
  have days := Date.toDays_add valid.year valid.date
  rw [nanosecondsFromEpoch, seconds_epoch, seconds, minutes]
  omega

/-- The date of a time is admitted up to the last year of the calendar. -/
theorem IsValid.of?_date (valid : u.IsValid) (high : u.date.year ≤ maxYear) :
    Date.of? u.date.year u.date.month u.date.day = some u.date := by
  obtain ⟨⟨january, december⟩, first, last⟩ := valid.date
  have low : minYear ≤ u.date.year := le_trans (by decide) valid.year
  exact if_pos ⟨low, high, january, december, first, last⟩

/-- The parts of a time of day are read as the instant that they denote. -/
theorem exists_ofLocal? (valid : u.IsValid) (fraction : nanosecond < 1000000000) :
    ∃ time, TimeOfDay.of? u.hour u.minute u.second nanosecond = some time ∧
      ∀ offset, Instant.ofLocal? u.date time offset =
        if isCalendarDay ((u.instant nanosecond offset).seconds / 86400) then
          some (u.instant nanosecond offset)
        else none := by
  have days := Date.toDays_add valid.year valid.date
  have clock := TimeOfDay.of?.eq_1 u.hour u.minute u.second nanosecond
  rw [if_pos ⟨valid.hour, valid.minute, valid.second, fraction⟩] at clock
  -- A leap second is kept as the second before it with a second of nanoseconds more.
  by_cases last : u.second = 60
  · have carried : u.leap = 1 := if_pos last
    rw [if_pos last] at clock
    refine ⟨_, clock, fun offset => ?_⟩
    have same : u.instant nanosecond offset =
        ⟨u.date.toDays * 86400 + (u.hour * 3600 + u.minute * 60 + 59 : Nat) - offset,
          1000000000 + nanosecond⟩ := by
      rw [instant, carried, seconds_epoch, seconds, minutes, last, Instant.mk.injEq]
      omega
    rw [same]
    rfl
  · have carried : u.leap = 0 := if_neg last
    rw [if_neg last] at clock
    refine ⟨_, clock, fun offset => ?_⟩
    have same : u.instant nanosecond offset =
        ⟨u.date.toDays * 86400 + (u.hour * 3600 + u.minute * 60 + u.second : Nat) - offset,
          nanosecond⟩ := by
      rw [instant, carried, seconds_epoch, seconds, minutes, Instant.mk.injEq]
      omega
    rw [same]
    rfl

/-- Less than a day away from the years 0 to 9999 every day is one of the calendar. -/
theorem isCalendarDay_instant {offset : Int} (valid : u.IsValid) (high : u.date.year ≤ 9999)
    (near : offset.natAbs < 86400) (nanosecond : Nat) :
    isCalendarDay ((u.instant nanosecond offset).seconds / 86400) = true := by
  have before := Date.dayNumber_lt valid.year valid.date
  have years : Date.daysBeforeYear (u.date.year.toNat + 1) ≤ Date.daysBeforeYear 10000 :=
    Date.daysBeforeYear_mono (by omega)
  rw [Date.daysBeforeYear_eq 10000] at years
  have first : Date.toDays ⟨minYear, 1, 1⟩ ≤ -719530 := by decide
  have last : 2932898 ≤ Date.toDays ⟨maxYear, 12, 31⟩ := by decide
  have carried : u.leap ≤ u.second := by
    rw [leap]
    split <;> omega
  have clock := And.intro valid.hour (And.intro valid.minute valid.second)
  rw [isCalendarDay, Bool.and_eq_true, decide_eq_true_iff, decide_eq_true_iff]
  dsimp only [instant]
  rw [seconds_epoch, seconds, minutes]
  omega

/-- The parts of a date and a time of the years 0 to 9999 are read as an instant. -/
theorem instant?_eq {offset : Int} (valid : u.IsValid) (high : u.date.year ≤ 9999)
    (fraction : nanosecond < 1000000000) (near : offset.natAbs < 86400) :
    (do
      let date ← Date.of? u.date.year u.date.month u.date.day
      let time ← TimeOfDay.of? u.hour u.minute u.second nanosecond
      Instant.ofLocal? date time offset) = some (u.instant nanosecond offset) := by
  obtain ⟨time, clock, read⟩ := exists_ofLocal? valid fraction
  rw [valid.of?_date (high.trans (by decide)), clock]
  show Instant.ofLocal? u.date time offset = _
  rw [read, if_pos (isCalendarDay_instant valid high near nanosecond)]

end CivilTime

end ConferenceSync.Time
