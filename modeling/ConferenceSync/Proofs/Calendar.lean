import Mathlib.Tactic.IntervalCases
import ConferenceSync.Time.Civil

/-!
# The calendar

The date of a day is a real one, and the day of that date is the day again. Years are
counted from March here, as the definitions do it, and days and years within eras of 400 years,
after which the calendar repeats itself.

## Main definitions

* `IsDayOfEra` — how a day of an era is made up of centuries, spans of four years, years and days
* `Date.ofMarch` — the date of a day of a year that starts in March

## Main results

* `Date.exists_ofDays_eq` — how the date of a day is reckoned
* `Date.toDays_ofDays` — the day of that date
* `Date.month_and_day_ofDays` — its month has that day
-/

namespace ConferenceSync.Time

/-- Day `n` of an era is day `s` of year `r` in span `q` of century `c`. An era has four centuries,
a century 25 spans and a span four years. A year has 366 days only if it is the last of its span,
and in the last span of a century only if that is the last of its era. -/
structure IsDayOfEra (n c q r s : Int) : Prop where
  sum : n = 36524 * c + 1461 * q + 365 * r + s
  century : 0 ≤ c ∧ c ≤ 3
  span : 0 ≤ q ∧ q ≤ 24
  year : 0 ≤ r ∧ r ≤ 3
  day : 0 ≤ s ∧ s ≤ 365
  leap : s = 365 → r = 3 ∧ (q = 24 → c = 3)

/-- Each day of an era is made up in this way. -/
theorem exists_isDayOfEra {n : Int} (low : 0 ≤ n) (high : n < 146097) :
    ∃ c q r s, IsDayOfEra n c q r s := by
  obtain ⟨c, hc⟩ : ∃ c, c = min (n / 36524) 3 := ⟨_, rfl⟩
  obtain ⟨m, hm⟩ : ∃ m, m = n - 36524 * c := ⟨_, rfl⟩
  obtain ⟨q, hq⟩ : ∃ q, q = m / 1461 := ⟨_, rfl⟩
  obtain ⟨l, hl⟩ : ∃ l, l = m - 1461 * q := ⟨_, rfl⟩
  obtain ⟨r, hr⟩ : ∃ r, r = min (l / 365) 3 := ⟨_, rfl⟩
  -- Only the last century and the last year of a span are longer than the others.
  have century : (0 ≤ c ∧ c ≤ 3) ∧ 0 ≤ m ∧ m ≤ 36524 ∧ (m = 36524 → c = 3) := by omega
  have span : (0 ≤ q ∧ q ≤ 24) ∧ 0 ≤ l ∧ l ≤ 1460 ∧ (l = 1460 → q = 24 → m = 36524) := by
    clear hc
    omega
  clear hc hq
  exact ⟨c, q, r, l - 365 * r, by omega, century.1, span.1, by omega, by omega, by omega⟩

namespace IsDayOfEra

variable {n c q r s : Int}

theorem centuries_eq (parts : IsDayOfEra n c q r s) : n / 36524 - n / 146096 = c := by
  obtain ⟨sum, century, span, year, day, leap⟩ := parts
  have last : 1461 * q + 365 * r + s < 36524 ∨ c = 3 ∧ 1461 * q + 365 * r + s = 36524 := by omega
  rcases last with inside | ⟨rfl, last⟩
  · have within : n / 36524 = c := by omega
    have before : n / 146096 = 0 := by omega
    omega
  · omega

/-- The year of an era in which a day lies. -/
theorem yearOfEra_eq (parts : IsDayOfEra n c q r s) :
    (n - n / 1460 + n / 36524 - n / 146096) / 365 = 100 * c + 4 * q + r := by
  have centuries := parts.centuries_eq
  obtain ⟨sum, century, span, year, day, leap⟩ := parts
  have spans : n / 1460 = 25 * c + q + (24 * c + q + 365 * r + s) / 1460 := by omega
  have near : (24 * c + q + 365 * r + s) / 1460 = 0 ∧ s ≤ 364 ∨
      (24 * c + q + 365 * r + s) / 1460 = 1 ∧ 1 ≤ s := by omega
  omega

/-- The day of the year is what remains. -/
theorem dayOfYear_eq (parts : IsDayOfEra n c q r s) :
    n - (365 * (100 * c + 4 * q + r) + (100 * c + 4 * q + r) / 4 - (100 * c + 4 * q + r) / 100) =
      s := by
  obtain ⟨sum, -, span, year, -, -⟩ := parts
  have fours : (100 * c + 4 * q + r) / 4 = 25 * c + q := by omega
  have hundreds : (100 * c + 4 * q + r) / 100 = c := by omega
  omega

/-- The last day of a year of 366 days is the last of February in a leap year. -/
theorem isLeapYear_of_day_eq (parts : IsDayOfEra n c q r s) (last : s = 365) (era : Int) :
    isLeapYear (100 * c + 4 * q + r + era * 400 + 1) = true := by
  obtain ⟨-, century, span, year, -, leap⟩ := parts
  obtain ⟨rfl, last⟩ := leap last
  have fours : (100 * c + 4 * q + 3 + era * 400 + 1) % 4 = 0 := by omega
  have hundreds : (100 * c + 4 * q + 3 + era * 400 + 1) % 100 = (4 * q + 4) % 100 := by omega
  rw [isLeapYear, fours, hundreds]
  by_cases late : q = 24
  · have eras : (100 * c + 4 * q + 3 + era * 400 + 1) % 400 = 0 := by omega
    simp [eras]
  · have off : (4 * q + 4) % 100 ≠ 0 := by omega
    simp [off]

end IsDayOfEra

theorem daysInMonth_le (year : Int) (month : Nat) : daysInMonth year month ≤ 31 := by
  unfold daysInMonth
  split_ifs <;> decide

namespace Date

/-- The date of a day, counted from 0 on, of a year that starts in March. -/
def ofMarch (year day : Int) : Date :=
  let month := (5 * day + 2) / 153
  ⟨if month < 10 then year else year + 1, (if month < 10 then month + 3 else month - 9).toNat,
    (day - (153 * month + 2) / 5 + 1).toNat⟩

/-- The days before the first day of March of a year. -/
def daysBeforeMarch (year : Int) : Int :=
  365 * year + year / 4 - year / 100 + year / 400 - 719468

theorem daysBeforeMarch_add {n c q r s : Int} (parts : IsDayOfEra n c q r s) (era : Int) :
    daysBeforeMarch (100 * c + 4 * q + r + era * 400) + s = n + era * 146097 - 719468 := by
  obtain ⟨sum, century, span, year, -, -⟩ := parts
  have fours : (100 * c + 4 * q + r + era * 400) / 4 = 25 * c + q + 100 * era := by omega
  have hundreds : (100 * c + 4 * q + r + era * 400) / 100 = c + 4 * era := by omega
  have eras : (100 * c + 4 * q + r + era * 400) / 400 = era := by omega
  rw [daysBeforeMarch, fours, hundreds, eras]
  omega

/-- The date of a day of the calendar. -/
theorem exists_ofDays_eq (days : Int) :
    ∃ year day, ofDays days = ofMarch year day ∧ days = daysBeforeMarch year + day ∧ 0 ≤ day ∧
      day ≤ 365 ∧ (day = 365 → isLeapYear (year + 1) = true) := by
  obtain ⟨era, hera⟩ : ∃ era, era = (days + 719468) / 146097 := ⟨_, rfl⟩
  obtain ⟨n, hn⟩ : ∃ n, n = days + 719468 - era * 146097 := ⟨_, rfl⟩
  obtain ⟨c, q, r, s, parts⟩ := exists_isDayOfEra (n := n) (by omega) (by omega)
  refine ⟨100 * c + 4 * q + r + era * 400, s, ?_, ?_, parts.day.1, parts.day.2, fun last => ?_⟩
  · simp only [ofDays, ofMarch, ← hera, ← hn, parts.yearOfEra_eq, parts.dayOfYear_eq]
    have day := parts.day
    have months : 0 ≤ (5 * s + 2) / 153 ∧ (5 * s + 2) / 153 ≤ 11 := by
      clear hera hn
      omega
    by_cases early : (5 * s + 2) / 153 < 10
    · simp only [early, ↓reduceIte]
      rw [if_neg (by omega)]
    · simp only [early, ↓reduceIte]
      rw [if_pos (by omega)]
  · rw [daysBeforeMarch_add parts]
    omega
  · exact parts.isLeapYear_of_day_eq last era

/-- The day of the date of a day of a year that starts in March. -/
theorem toDays_ofMarch (year : Int) {day : Int} (low : 0 ≤ day) (high : day ≤ 365) :
    (ofMarch year day).toDays = daysBeforeMarch year + day := by
  have months : 0 ≤ (5 * day + 2) / 153 ∧ (5 * day + 2) / 153 ≤ 11 := by omega
  have days : 0 ≤ day - (153 * ((5 * day + 2) / 153) + 2) / 5 := by omega
  rw [ofMarch, daysBeforeMarch, toDays]
  generalize (5 * day + 2) / 153 = month at months days ⊢
  -- January and February belong to a year that has started in the March before.
  by_cases early : month < 10
  · simp only [early, ↓reduceIte]
    rw [if_neg (by omega), if_neg (by omega)]
    omega
  · simp only [early, ↓reduceIte]
    rw [if_pos (by omega), if_pos (by omega)]
    omega

/-- The day of the date of a day is the day again. -/
theorem toDays_ofDays (days : Int) : (ofDays days).toDays = days := by
  obtain ⟨year, day, date, sum, low, high, -⟩ := exists_ofDays_eq days
  rw [date, toDays_ofMarch year low high, sum]

/-- The date of a day of a year that starts in March has a month that has the day. -/
theorem month_and_day_ofMarch {year day : Int} (low : 0 ≤ day) (high : day ≤ 365)
    (leap : day = 365 → isLeapYear (year + 1) = true) :
    (1 ≤ (ofMarch year day).month ∧ (ofMarch year day).month ≤ 12) ∧ 1 ≤ (ofMarch year day).day ∧
      (ofMarch year day).day ≤ daysInMonth (ofMarch year day).year (ofMarch year day).month := by
  have months : 0 ≤ (5 * day + 2) / 153 ∧ (5 * day + 2) / 153 ≤ 11 := by omega
  obtain ⟨month, within⟩ : ∃ month, (5 * day + 2) / 153 = month := ⟨_, rfl⟩
  have bounds : 153 * month ≤ 5 * day + 2 ∧ 5 * day + 2 < 153 * month + 153 := by omega
  rw [within] at months
  simp only [ofMarch, within]
  by_cases february : month = 11
  · subst february
    refine ⟨by simp, by simp; omega, ?_⟩
    by_cases last : day = 365
    · simp [daysInMonth, leap last, last]
    · suffices day - 337 + 1 ≤ 28 by simp [daysInMonth]; split <;> omega
      omega
  · obtain ⟨first, last⟩ := months
    interval_cases month
    all_goals simp [daysInMonth] at february ⊢
    all_goals omega

/-- The date of a day has a month that has the day. -/
theorem month_and_day_ofDays (days : Int) :
    (1 ≤ (ofDays days).month ∧ (ofDays days).month ≤ 12) ∧ 1 ≤ (ofDays days).day ∧
      (ofDays days).day ≤ daysInMonth (ofDays days).year (ofDays days).month := by
  obtain ⟨year, day, date, -, first, last, leap⟩ := exists_ofDays_eq days
  rw [date]
  exact month_and_day_ofMarch first last leap

end Date

end ConferenceSync.Time
