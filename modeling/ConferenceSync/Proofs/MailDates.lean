import ConferenceSync.Proofs.CivilTimes
import ConferenceSync.Proofs.DateWords

/-!
# Mail dates

A lenient date is written in words. What the words say together is a date and a time of day
somewhere away from Greenwich, perhaps with a day of the week. A text that spells such a date is
read as what it spells, and no other text is read at all.

## Main definitions

* `MailDate` — what a lenient date says
* `MailDate.start` — the start of its minute in Greenwich
* `Spells` — which characters say so

## Main results

* `MailDate.instant?_eq_some_iff` — the instant of a date
* `httpInstant?_eq_some_iff` — dates are read as they are spelled, and nothing else is read
* `MailDate.start_eq_of_instant_eq` — an instant has one minute and one second in Greenwich
-/

namespace ConferenceSync.Time

/-- What a lenient date says: the day of the week from Sunday on, if it is given, the date and the
time of day where it was written, and how many seconds east of Greenwich that was. -/
structure MailDate where
  weekday? : Option Nat
  civil : CivilTime
  offset : Int
  deriving DecidableEq, Repr

namespace MailDate

/-- Whether there is such a date: its year is one of the calendar, its day of the week is the right
one, and it is less than a day away from Greenwich. -/
structure IsValid (d : MailDate) : Prop where
  civil : d.civil.IsValid
  high : d.civil.date.year ≤ maxYear
  weekday : ∀ weekday ∈ d.weekday?, weekday = d.civil.date.weekday
  near : d.offset.natAbs < 86400

/-- The instant of a date, if there is one. -/
def instant? (d : MailDate) : Option Instant :=
  if 86400 ≤ d.offset.natAbs then none
  else do
    let date ← Date.of? d.civil.date.year d.civil.date.month d.civil.date.day
    let time ← TimeOfDay.of? d.civil.hour d.civil.minute d.civil.second 0
    if d.weekday?.all (· == weekdayOfDays date.toDays) then Instant.ofLocal? date time d.offset
    else none

/-- The instant of a date is that of its parts, if there is such a date and the instant is one of
the calendar. -/
theorem instant?_eq_some_iff {d : MailDate} {t : Instant} (year : 0 ≤ d.civil.date.year) :
    d.instant? = some t ↔ d.IsValid ∧
      isCalendarDay ((d.civil.instant 0 d.offset).seconds / 86400) = true ∧
        d.civil.instant 0 d.offset = t := by
  constructor
  · intro read
    rw [instant?] at read
    obtain ⟨near, read⟩ := Option.ite_none_left_eq_some.1 read
    obtain ⟨date, dated, read⟩ := Option.bind_eq_some_iff.1 read
    obtain ⟨time, timed, read⟩ := Option.bind_eq_some_iff.1 read
    obtain ⟨weekday, read⟩ := Option.ite_none_right_eq_some.1 read
    rw [Date.of?] at dated
    obtain ⟨⟨-, high, january, december, first, last⟩, dated⟩ :=
      Option.ite_none_right_eq_some.1 dated
    obtain rfl : d.civil.date = date := Option.some.inj dated
    have clock := timed
    rw [TimeOfDay.of?] at clock
    obtain ⟨⟨hour, minute, second, -⟩, -⟩ := Option.ite_none_right_eq_some.1 clock
    have valid : d.civil.IsValid :=
      ⟨year, ⟨⟨january, december⟩, first, last⟩, hour, minute, second⟩
    obtain ⟨same, timed', read'⟩ := CivilTime.exists_ofLocal? valid (by decide : 0 < 1000000000)
    obtain rfl := Option.some.inj (timed.symm.trans timed')
    rw [read'] at read
    obtain ⟨known, read⟩ := Option.ite_none_right_eq_some.1 read
    refine ⟨⟨valid, high, fun i given => ?_, not_le.1 near⟩, known, Option.some.inj read⟩
    rw [given, Date.weekdayOfDays_toDays year valid.date] at weekday
    exact beq_iff_eq.1 weekday
  · rintro ⟨valid, known, rfl⟩
    obtain ⟨time, timed, read⟩ :=
      CivilTime.exists_ofLocal? valid.civil (by decide : 0 < 1000000000)
    have weekday : d.weekday?.all (· == weekdayOfDays d.civil.date.toDays) = true := by
      rw [Date.weekdayOfDays_toDays year valid.civil.date, Option.all_eq_true]
      exact fun i given => beq_iff_eq.2 (valid.weekday i given)
    rw [instant?, if_neg (not_le.2 valid.near), valid.civil.of?_date valid.high, bind_of_some,
      timed, bind_of_some, if_pos weekday, read, if_pos known]

/-! ### Minutes and seconds -/

/-- The start of the minute in Greenwich, in seconds from the start of the year 0. -/
def start (d : MailDate) : Int := d.civil.minutes * 60 - d.offset

variable {d : MailDate}

theorem start_mod (minutes : d.offset % 60 = 0) : d.start % 60 = 0 := by
  rw [start]
  omega

/-- The parts of an instant in Greenwich. A leap second is counted with the second before it. -/
theorem seconds_instant (valid : d.civil.IsValid) :
    let t := d.civil.instant 0 d.offset
    t.seconds + 719528 * 86400 = d.start + (d.civil.second - d.civil.leap) ∧
      t.nanoseconds = d.civil.leap * 1000000000 ∧
      (d.civil.leap = 0 ∧ d.civil.second ≤ 59 ∨ d.civil.leap = 1 ∧ d.civil.second = 60) := by
  have last := valid.second
  refine ⟨?_, Nat.add_zero _, ?_⟩
  · dsimp only [CivilTime.instant, start]
    rw [CivilTime.seconds_epoch, CivilTime.seconds]
    omega
  · rw [CivilTime.leap]
    split <;> omega

/-- A time of Greenwich with the instant of a date has its minute there, and its second. -/
theorem start_eq_of_instant_eq {u : CivilTime} (real : u.IsValid) (valid : d.civil.IsValid)
    (minutes : d.offset % 60 = 0) (same : u.instant 0 0 = d.civil.instant 0 d.offset) :
    (u.minutes : Int) * 60 = d.start ∧ u.second = d.civil.second := by
  obtain ⟨seconds, leap, cases⟩ := seconds_instant valid
  obtain ⟨seconds', leap', cases'⟩ := seconds_instant (d := ⟨none, u, 0⟩) real
  have whole := start_mod minutes
  dsimp only at seconds' leap' cases'
  rw [same] at seconds' leap'
  rw [start] at seconds'
  dsimp only at seconds'
  omega

end MailDate

/-! ## Reading -/

/-- Which characters are a date, and what they say. Its words come in one order; blanks stand
between them, and some must. -/
inductive Spells : List Char → MailDate → Prop where
  | date {before lead day afterDay month afterMonth year afterYear hour afterHour beforeMinute
        minute second afterTime zone comments : List Char}
      {weekday? : Option Nat} {d m y hh mm ss : Nat} {offset : Int}
      (blanks : Blanks (before ++ (afterDay ++ (afterMonth ++ (afterYear ++ (afterHour ++
        (beforeMinute ++ afterTime)))))))
      (apart : afterDay ≠ [] ∧ afterMonth ≠ [] ∧ afterYear ≠ [] ∧ afterTime ≠ [])
      (weekdaySaid : WeekdayWord lead weekday?) (daySaid : Numeral 1 2 day d)
      (monthSaid : Named monthNames month m) (yearSaid : YearWord year y)
      (hourSaid : Numeral 2 2 hour hh) (minuteSaid : Numeral 2 2 minute mm)
      (secondSaid : SecondWord second ss) (zoneSaid : ZoneWord zone offset)
      (skipped : Comments comments) :
      Spells
        (before ++ (lead ++ (day ++ (afterDay ++ (month ++ (afterMonth ++ (year ++ (afterYear ++
          (hour ++ (afterHour ++ ':' :: (beforeMinute ++ (minute ++ (second ++ (afterTime ++
            (zone ++ comments)))))))))))))))
        ⟨weekday?, ⟨⟨y, m + 1, d⟩, hh, mm, ss⟩, offset⟩

theorem Spells.year_nonneg {cs : List Char} {d : MailDate} (spells : Spells cs d) :
    0 ≤ d.civil.date.year := by
  cases spells
  exact Int.natCast_nonneg _

/-- What is read is spelled. -/
theorem exists_spells {cs : List Char} {t : Instant} (read : httpInstant? cs = some t) :
    ∃ d, Spells cs d ∧ d.instant? = some t := by
  rw [httpInstant?] at read
  obtain ⟨⟨weekday?, r₁⟩, weekdayRead, read⟩ := Option.bind_eq_some_iff.1 read
  obtain ⟨⟨d, r₂⟩, dayRead, read⟩ := Option.bind_eq_some_iff.1 read
  obtain ⟨r₃, gap₁, read⟩ := Option.bind_eq_some_iff.1 read
  obtain ⟨⟨m, r₄⟩, monthRead, read⟩ := Option.bind_eq_some_iff.1 read
  obtain ⟨r₅, gap₂, read⟩ := Option.bind_eq_some_iff.1 read
  obtain ⟨⟨y, r₆⟩, yearRead, read⟩ := Option.bind_eq_some_iff.1 read
  obtain ⟨r₇, gap₃, read⟩ := Option.bind_eq_some_iff.1 read
  obtain ⟨⟨hh, r₈⟩, hourRead, read⟩ := Option.bind_eq_some_iff.1 read
  obtain ⟨r₉, colonRead, read⟩ := Option.bind_eq_some_iff.1 read
  obtain ⟨⟨mm, r₁₀⟩, minuteRead, read⟩ := Option.bind_eq_some_iff.1 read
  obtain ⟨⟨ss, r₁₁⟩, secondRead, read⟩ := Option.bind_eq_some_iff.1 read
  obtain ⟨r₁₂, gap₆, read⟩ := Option.bind_eq_some_iff.1 read
  obtain ⟨⟨offset, r₁₃⟩, zoneRead, read⟩ := Option.bind_eq_some_iff.1 read
  obtain ⟨stops, parts⟩ := Option.ite_none_left_eq_some.1 read
  obtain ⟨ends, near⟩ : skipComments r₁₃.length r₁₃ = [] ∧ ¬86400 ≤ offset.natAbs := by
    simpa using stops
  obtain ⟨before, start, blanks₀⟩ := exists_gap cs
  obtain ⟨lead, lead_eq, weekdaySaid⟩ := exists_weekdayWord (skipBlanks_skipBlanks cs) weekdayRead
  obtain ⟨day, day_eq, daySaid⟩ := sound_scanNumber _ _ _ _ _ dayRead
  obtain ⟨afterDay, rfl, blanks₁, some₁⟩ := exists_gap_of_scanBlanks gap₁
  obtain ⟨month, rfl, monthSaid⟩ := sound_scanName _ _ _ _ monthRead
  obtain ⟨afterMonth, rfl, blanks₂, some₂⟩ := exists_gap_of_scanBlanks gap₂
  obtain ⟨year, rfl, yearSaid⟩ := sound_scanNumber _ _ _ _ _ yearRead
  obtain ⟨afterYear, rfl, blanks₃, some₃⟩ := exists_gap_of_scanBlanks gap₃
  obtain ⟨hour, rfl, hourSaid⟩ := sound_scanNumber _ _ _ _ _ hourRead
  obtain ⟨afterHour, hour_eq, blanks₄⟩ := exists_gap r₈
  obtain ⟨beforeMinute, colon_eq, blanks₅⟩ := exists_gap r₉
  obtain ⟨minute, minute_eq, minuteSaid⟩ := sound_scanNumber _ _ _ _ _ minuteRead
  obtain ⟨second, rfl, secondSaid⟩ := sound_scanSecondIfAny _ _ _ secondRead
  obtain ⟨afterTime, rfl, blanks₆, some₆⟩ := exists_gap_of_scanBlanks gap₆
  obtain ⟨zone, rfl, zoneSaid⟩ := sound_scanMailZone _ _ _ zoneRead
  rw [eq_cons_of_scanChar colonRead, colon_eq, minute_eq] at hour_eq
  rw [lead_eq, day_eq, hour_eq] at start
  rw [List.length_append, Nat.add_sub_cancel] at parts
  have blanks : Blanks (before ++ (afterDay ++ (afterMonth ++ (afterYear ++ (afterHour ++
      (beforeMinute ++ afterTime)))))) := by
    simp only [Blanks, List.forall_mem_append]
    exact ⟨blanks₀, blanks₁, blanks₂, blanks₃, blanks₄, blanks₅, blanks₆⟩
  refine ⟨⟨weekday?, ⟨⟨expandYear year.length y, m + 1, d⟩, hh, mm, ss⟩, offset⟩, ?_, ?_⟩
  · rw [start]
    exact .date blanks ⟨some₁, some₂, some₃, some₆⟩ weekdaySaid daySaid monthSaid
      ⟨y, ⟨yearSaid.digits, yearSaid.enough, le_rfl, yearSaid.value⟩, rfl⟩ hourSaid minuteSaid
      secondSaid zoneSaid (comments_of_skipComments ends)
  · rw [MailDate.instant?, if_neg near]
    exact parts

/-- What is spelled is read. -/
theorem httpInstant?_eq_of_spells {cs : List Char} {d : MailDate} (spells : Spells cs d) :
    httpInstant? cs = d.instant? := by
  obtain @⟨before, lead, day, afterDay, month, afterMonth, year, afterYear, hour, afterHour,
    beforeMinute, minute, second, afterTime, zone, comments, weekday?, d, m, y, hh, mm, ss, offset,
    blanks, apart, weekdaySaid, daySaid, monthSaid, ⟨n, yearSaid, rfl⟩, hourSaid, minuteSaid,
    secondSaid, zoneSaid, skipped⟩ := spells
  simp only [Blanks, List.forall_mem_append] at blanks
  obtain ⟨blanks₀, blanks₁, blanks₂, blanks₃, blanks₄, blanks₅, blanks₆⟩ := blanks
  obtain ⟨some₁, some₂, some₃, some₆⟩ := apart
  choose after weekdayRead afterRead using
    exists_scanWeekdayIfAny weekdaySaid daySaid (by decide : 0 < 1)
  have yearFits (rest : List Char) : Numeral 2 (year ++ rest).length year n :=
    ⟨yearSaid.digits, yearSaid.enough, by simp, yearSaid.value⟩
  have yearDigits (rest : List Char) : (year ++ rest).length - rest.length = year.length := by
    rw [List.length_append, Nat.add_sub_cancel]
  have noSecond : scanChar ':' (skipBlanks (afterTime ++ (zone ++ comments))) = none := by
    rw [skipBlanks_gap blanks₆ (zoneSaid.solid.append _)]
    exact zoneSaid.scanChar_eq_none comments
  rw [httpInstant?, skipBlanks_gap blanks₀
    (weekdaySaid.solid_append ((daySaid.solid (by decide)).append _)), weekdayRead, bind_of_some]
  dsimp only
  rw [afterRead, complete_scanNumber _ _ _ _ _ daySaid (noDigit_gap blanks₁ some₁ _), bind_of_some]
  dsimp only
  rw [scanBlanks_gap blanks₁ some₁ ((monthSaid.solid areNames_monthNames).append _), bind_of_some,
    complete_scanName areNames_monthNames _ _ _ monthSaid trivial, bind_of_some]
  dsimp only
  rw [scanBlanks_gap blanks₂ some₂ ((yearSaid.solid (by decide)).append _), bind_of_some,
    complete_scanNumber _ _ _ _ _ (yearFits _) (noDigit_gap blanks₃ some₃ _), bind_of_some]
  dsimp only
  rw [yearDigits, scanBlanks_gap blanks₃ some₃ ((hourSaid.solid (by decide)).append _),
    bind_of_some, complete_scanNumber_self _ _ _ _ hourSaid trivial, bind_of_some]
  dsimp only
  rw [skipBlanks_gap blanks₄ ⟨':', _, rfl, by decide⟩, scanChar_self, bind_of_some,
    skipBlanks_gap blanks₅ ((minuteSaid.solid (by decide)).append _),
    complete_scanNumber_self _ _ _ _ minuteSaid trivial, bind_of_some]
  dsimp only
  rw [complete_scanSecondIfAny _ _ _ secondSaid noSecond, bind_of_some]
  dsimp only
  rw [scanBlanks_gap blanks₆ some₆ (zoneSaid.solid.append _), bind_of_some,
    complete_scanMailZone _ _ _ zoneSaid skipped.noLetter, bind_of_some]
  dsimp only
  rw [skipComments_of_comments skipped le_rfl, MailDate.instant?]
  simp only [List.isEmpty_nil, Bool.not_true, Bool.false_or, decide_eq_true_eq]

/-- What is read is an instant that is spelled, and nothing else is read. -/
theorem httpInstant?_eq_some_iff {cs : List Char} {t : Instant} :
    httpInstant? cs = some t ↔ ∃ d, Spells cs d ∧ d.instant? = some t := by
  constructor
  · exact exists_spells
  · rintro ⟨d, spells, instant⟩
    exact (httpInstant?_eq_of_spells spells).trans instant

/-- A zone is a number of minutes away from Greenwich. -/
theorem Spells.minutes {cs : List Char} {d : MailDate} (spells : Spells cs d) :
    d.offset % 60 = 0 := by
  cases spells with
  | date _ _ _ _ _ _ _ _ _ zoneSaid _ => exact zoneSaid.minutes

end ConferenceSync.Time
