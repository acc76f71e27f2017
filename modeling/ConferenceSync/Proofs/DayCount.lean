import Mathlib.Algebra.BigOperators.Intervals
import Mathlib.Algebra.Order.BigOperators.Group.Finset
import Mathlib.Tactic.IntervalCases
import ConferenceSync.Proofs.Calendar

/-!
# Counting days

The calendar counts days by a formula. Here they are counted one after another: the days of whole
years from the first day of the year 0 on, then those of whole months, then single days. Both counts
are the same but for their start, so the formula counts every day once, and the days of the week
follow each other.

## Main definitions

* `daysInYear` — the number of days of a year
* `Date.IsValid` — that a month has a day
* `Date.dayNumber`, `Date.weekday` — a date counted from the first day of the year 0, and its day
  of the week

## Main results

* `Date.toDays_add` — the formula counts the same days
* `Date.weekdayOfDays_toDays` — the day of the week of a date
* `Date.year_ofDays_iff` — the days of the years 0 to 9999
-/

namespace ConferenceSync.Time

/-- The number of days of a year. -/
def daysInYear (y : Int) : Nat := if isLeapYear y then 366 else 365

namespace Date

/-- Whether the month of a date has its day. -/
structure IsValid (d : Date) : Prop where
  month : 1 ≤ d.month ∧ d.month ≤ 12
  day : 1 ≤ d.day ∧ d.day ≤ daysInMonth d.year d.month

/-- The number of days of the years from 0 on that come before a year. -/
def daysBeforeYear (y : Nat) : Nat := ∑ earlier ∈ Finset.range y, daysInYear earlier

/-- The number of days of the months that come before a month of a year. -/
def daysBeforeMonth (y : Int) (m : Nat) : Nat :=
  ∑ earlier ∈ Finset.Ico 1 m, daysInMonth y earlier

/-- The number of days from the first one of the year 0 to a date that is not before it. -/
def dayNumber (d : Date) : Nat :=
  daysBeforeYear d.year.toNat + daysBeforeMonth d.year d.month + (d.day - 1)

/-- The day of the week of a date: 0 is Sunday. The first day of the year 0 is a Saturday. -/
def weekday (d : Date) : Nat := (d.dayNumber + 6) % 7

/-! ## The count in closed form -/

/-- Of the years up to a given one, every fourth is a leap year, less every hundredth, with every
four hundredth. -/
theorem daysBeforeYear_eq (y : Nat) :
    daysBeforeYear y = 365 * y + (y + 3) / 4 + (y + 399) / 400 - (y + 99) / 100 := by
  induction y with
  | zero => rfl
  | succ y ih =>
    rw [daysBeforeYear, Finset.sum_range_succ, ← daysBeforeYear, ih, daysInYear, isLeapYear]
    simp only [Bool.and_eq_true, Bool.or_eq_true, beq_iff_eq, bne_iff_ne]
    split_ifs <;> omega

/-- January and February are counted on from the ten months before them, as the last ones of a year
that starts in March. -/
theorem daysBeforeMonth_early (y : Int) {m : Nat} (first : 1 ≤ m) (last : m ≤ 2) :
    daysBeforeMonth y m + 306 = (153 * (m + 9) + 2) / 5 := by
  interval_cases m
  all_goals simp [daysBeforeMonth, daysInMonth]

/-- The other months come after January and February of their own year. -/
theorem daysBeforeMonth_late (y : Int) {m : Nat} (first : 3 ≤ m) (last : m ≤ 12) :
    daysBeforeMonth y m = 31 + daysInMonth y 2 + (153 * (m - 3) + 2) / 5 := by
  interval_cases m
  all_goals simp [daysBeforeMonth, Finset.sum_Ico_succ_top, daysInMonth]

/-- The formula counts the same days, from the first of January of 1970 on. -/
theorem toDays_add {d : Date} (low : 0 ≤ d.year) (valid : d.IsValid) :
    d.toDays + 719528 = d.dayNumber := by
  obtain ⟨year, month, day⟩ := d
  obtain ⟨y, rfl⟩ := Int.eq_ofNat_of_zero_le low
  obtain ⟨⟨january, december⟩, first, -⟩ := valid
  dsimp only at january december first
  rw [dayNumber, toDays, Int.toNat_natCast, daysBeforeYear_eq]
  dsimp only
  by_cases early : month ≤ 2
  · have months := daysBeforeMonth_early y january early
    simp only [early, ↓reduceIte]
    omega
  · have months := daysBeforeMonth_late y (by omega) december
    rw [daysInMonth, isLeapYear] at months
    simp only [early, ↓reduceIte, Bool.and_eq_true, Bool.or_eq_true, beq_iff_eq, bne_iff_ne]
      at months ⊢
    split at months <;> omega

/-- The days of the week follow each other. -/
theorem weekdayOfDays_toDays {d : Date} (low : 0 ≤ d.year) (valid : d.IsValid) :
    weekdayOfDays d.toDays = d.weekday := by
  have count := toDays_add low valid
  rw [weekdayOfDays, weekday]
  omega

/-! ## The days of a year -/

/-- The months of a year are all its days. -/
theorem daysBeforeMonth_thirteen (y : Int) : daysBeforeMonth y 13 = daysInYear y := by
  simp [daysBeforeMonth, Finset.sum_Ico_succ_top, daysInMonth, daysInYear]
  split <;> rfl

/-- A date comes before the first day of the next year. -/
theorem dayNumber_lt {d : Date} (low : 0 ≤ d.year) (valid : d.IsValid) :
    d.dayNumber < daysBeforeYear (d.year.toNat + 1) := by
  obtain ⟨⟨january, december⟩, first, last⟩ := valid
  have month : daysBeforeMonth d.year (d.month + 1) =
      daysBeforeMonth d.year d.month + daysInMonth d.year d.month :=
    Finset.sum_Ico_succ_top january _
  have rest : daysBeforeMonth d.year (d.month + 1) ≤ daysBeforeMonth d.year 13 :=
    Finset.sum_le_sum_of_subset (Finset.Ico_subset_Ico_right (by omega))
  have year : daysBeforeYear (d.year.toNat + 1) =
      daysBeforeYear d.year.toNat + daysInYear d.year := by
    rw [daysBeforeYear, Finset.sum_range_succ, ← daysBeforeYear, Int.toNat_of_nonneg low]
  rw [daysBeforeMonth_thirteen] at rest
  rw [dayNumber, year]
  omega

theorem daysBeforeYear_mono {earlier later : Nat} (le : earlier ≤ later) :
    daysBeforeYear earlier ≤ daysBeforeYear later :=
  Finset.sum_le_sum_of_subset (Finset.range_subset_range.2 le)

theorem isValid_ofDays (days : Int) : (ofDays days).IsValid :=
  ⟨(month_and_day_ofDays days).1, (month_and_day_ofDays days).2⟩

/-- The days of the years 0 to 9999. -/
theorem year_ofDays_iff (days : Int) :
    0 ≤ (ofDays days).year ∧ (ofDays days).year ≤ 9999 ↔
      0 ≤ days + 719528 ∧ days + 719528 < daysBeforeYear 10000 := by
  obtain ⟨year, day, date, sum, low, high, -⟩ := exists_ofDays_eq days
  have months : (5 * day + 2) / 153 < 10 ↔ day ≤ 305 := by omega
  rw [date, sum, ofMarch, daysBeforeMarch, daysBeforeYear_eq]
  simp only [months]
  -- The years that start in March and have the first and the last day need a closer look.
  have years : year < -1 ∨ year = -1 ∨ (0 ≤ year ∧ year < 9999) ∨ year = 9999 ∨ 9999 < year := by
    omega
  rcases years with before | rfl | within | rfl | after
  all_goals split <;> omega

end Date

end ConferenceSync.Time
