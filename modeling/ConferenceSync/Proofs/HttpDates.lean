import Mathlib.Tactic.IntervalCases
import ConferenceSync.Proofs.MailDates

/-!
# Written dates

The written form of an instant is a date and a time of day in Greenwich, and it spells that instant.
So a date that has once been brought into that form stays as it is.

## Main definitions

* `CivilTime.httpChars` — the characters of a date and a time in Greenwich
* `Instant.IsWholeSecond` — that an instant is a full second, or a leap second
* `Instant.civil`, `Instant.year` — the date and the time in Greenwich, and the year

## Main results

* `scanNumber_padded` — a number that is written with a fixed width is read back
* `spells_httpChars` — what the characters of a date and a time spell
* `toList_formatHttpDate`, `instant_civil` — the written form of an instant, and that it is the same
  instant
* `length_formatHttpDate_eq_iff` — for which years a written date has 29 characters
* `normalizeHttpDate?_formatHttpDate`, `normalizeHttpDate?_idem` — a written date stays as it is
-/

namespace ConferenceSync

namespace Time

/-! ## Digits -/

section Digits

variable {width n : Nat} {rest : List Char}

theorem toList_padded (width n : Nat) :
    (padded width n).toList =
      List.replicate (width - (Nat.toDigits 10 n).length) '0' ++ Nat.toDigits 10 n := by
  simp [padded]

theorem length_padded (pos : 0 < width) (small : n < 10 ^ width) :
    (padded width n).toList.length = width := by
  have fits := (Nat.length_toDigits_le_iff (by decide) pos).2 small
  rw [toList_padded, List.length_append, List.length_replicate]
  omega

theorem isDigit_of_mem_padded {c : Char} (there : c ∈ (padded width n).toList) :
    Text.isDigit c = true := by
  rw [toList_padded, List.mem_append, List.mem_replicate] at there
  rcases there with ⟨-, rfl⟩ | there
  · rfl
  · exact Nat.isDigit_of_mem_toDigits (by decide) (by decide) there

/-- A number that is written with a fixed width is a numeral. -/
theorem numeral_padded {least most : Nat} (pos : 0 < width) (small : n < 10 ^ width)
    (enough : least ≤ width) (fits : width ≤ most) :
    Numeral least most (padded width n).toList n := by
  have length := length_padded pos small
  refine ⟨fun c => isDigit_of_mem_padded, by omega, by omega, ?_⟩
  rw [toList_padded, Nat.ofDigitChars_append, Nat.ofDigitChars_replicate_zero, Nat.mul_zero,
    Nat.ofDigitChars_ten_toDigits]

/-- A number that is written with a fixed width is read back, if no more digits are admitted or none
follow. -/
theorem scanNumber_padded {least most : Nat} (pos : 0 < width) (small : n < 10 ^ width)
    (enough : least ≤ width) (fits : width ≤ most) (ends : width = most ∨ NoDigit rest) :
    scanNumber least most ((padded width n).toList ++ rest) = some (n, rest) := by
  refine scanNumber_append (numeral_padded pos small enough fits) ?_
  rwa [length_padded pos small]

theorem skipBlanks_padded (pos : 0 < width) (small : n < 10 ^ width) (rest : List Char) :
    skipBlanks ((padded width n).toList ++ rest) = (padded width n).toList ++ rest :=
  skipBlanks_of_solid (((numeral_padded pos small le_rfl le_rfl).solid pos).append rest)

theorem scanNumber_two {least n : Nat} (enough : least ≤ 2) (small : n < 100) (rest : List Char) :
    scanNumber least 2 ((padded 2 n).toList ++ rest) = some (n, rest) :=
  scanNumber_padded (by decide) small enough le_rfl (.inl rfl)

end Digits

/-! ## Dates and times -/

section Chars

variable {u : CivilTime}

/-- The characters of a date and a time in Greenwich. -/
def CivilTime.httpChars (u : CivilTime) : List Char :=
  (weekdayTexts.getD u.date.weekday "").toList ++ ',' :: ' ' :: ((padded 2 u.date.day).toList ++
    ' ' :: ((monthTexts.getD (u.date.month - 1) "").toList ++
      ' ' :: ((padded 4 u.date.year.toNat).toList ++ ' ' :: ((padded 2 u.hour).toList ++
        ':' :: ((padded 2 u.minute).toList ++ ':' :: ((padded 2 u.second).toList ++
          [' ', 'G', 'M', 'T']))))))

theorem named_weekday {i : Nat} (known : i < 7) :
    Named weekdayNames (weekdayTexts.getD i "").toList i := by
  interval_cases i <;> exact ⟨rfl, by decide⟩

theorem named_month {i : Nat} (known : i < 12) :
    Named monthNames (monthTexts.getD i "").toList i := by
  interval_cases i <;> exact ⟨rfl, by decide⟩

/-- The characters of a date and a time are a date in Greenwich with its day of the week. -/
theorem spells_httpChars (valid : u.IsValid) (high : u.date.year ≤ 9999) :
    Spells u.httpChars ⟨some u.date.weekday, u, 0⟩ := by
  have small := valid.small high
  have known : u.date.weekday < 7 := Nat.mod_lt _ (by decide)
  obtain ⟨⟨year, month, day⟩, hour, minute, second⟩ := u
  obtain ⟨y, rfl⟩ := Int.eq_ofNat_of_zero_le valid.year
  obtain ⟨m, rfl⟩ := Nat.exists_eq_add_of_le' valid.date.month.1
  have short : m < 12 := by
    have last := valid.date.month.2
    dsimp only at last
    omega
  have four : (padded 4 y).toList.length = 4 := length_padded (by decide) small.year
  have two {n : Nat} (small : n < 100) : Numeral 2 2 (padded 2 n).toList n :=
    numeral_padded (by decide) small le_rfl le_rfl
  have space : Blanks [' '] := List.all_eq_true.1 rfl
  have yearSaid : YearWord (padded 4 y).toList y := by
    refine ⟨y, numeral_padded (by decide) small.year (by decide) four.ge, ?_⟩
    rw [four]
    rfl
  have zone : ZoneWord ['G', 'M', 'T'] 0 :=
    .named (List.all_eq_true.1 rfl) (List.cons_ne_nil _ _) (by decide)
  have blanks : Blanks ([] ++ ([' '] ++ ([' '] ++ ([' '] ++ ([] ++ ([] ++ [' '])))))) :=
    List.all_eq_true.1 rfl
  have apart : [' '] ≠ [] := List.cons_ne_nil _ _
  have spelled := Spells.date blanks ⟨apart, apart, apart, apart⟩
    (.given (named_weekday known) space)
    (numeral_padded (by decide) small.day (by decide) le_rfl) (named_month short) yearSaid
    (two small.hour) (two small.minute) (.given (List.forall_mem_nil _) (two small.second)) zone
    .nil
  simpa only [CivilTime.httpChars, List.append_assoc, List.cons_append, List.nil_append,
    List.append_nil, Nat.add_sub_cancel, Int.toNat_natCast] using spelled

/-- They are read as the instant in Greenwich. -/
theorem httpInstant?_httpChars (valid : u.IsValid) (high : u.date.year ≤ 9999) :
    httpInstant? u.httpChars = some (u.instant 0 0) := by
  rw [httpInstant?_eq_of_spells (spells_httpChars valid high)]
  have near : (0 : Int).natAbs < 86400 := by decide
  have real : (⟨some u.date.weekday, u, 0⟩ : MailDate).IsValid := by
    refine ⟨valid, high.trans (by decide), ?_, near⟩
    rintro i ⟨⟩
    rfl
  exact (MailDate.instant?_eq_some_iff valid.year).2
    ⟨real, CivilTime.isCalendarDay_instant valid high near 0, rfl⟩

theorem trimList_httpChars (u : CivilTime) : Text.trimList u.httpChars = u.httpChars := by
  have named := named_weekday (Nat.mod_lt (u.date.dayNumber + 6) (by decide : 0 < 7))
  have front : u.httpChars.dropWhile Text.isBlank = u.httpChars :=
    skipBlanks_of_solid ((named.solid areNames_weekdayNames).append _)
  rw [Text.trimList, front, Text.dropEndWhile_eq_self_iff]
  intro c last
  obtain rfl : 'T' = c := by
    simpa only [CivilTime.httpChars, List.getLast?_append, List.getLast?_cons, List.getLast?_nil,
      Option.getD_none, Option.getD_some, Option.some_or, Option.some.injEq] using last
  rfl

end Chars

/-! ## Instants -/

/-- Whether an instant is a full second, or a leap second. -/
def Instant.IsWholeSecond (t : Instant) : Prop :=
  t.nanoseconds = 0 ∨ t.nanoseconds = 1000000000 ∧ t.seconds % 60 = 59

theorem Instant.IsWholeSecond.carry_le {t : Instant} (whole : t.IsWholeSecond) :
    t.nanoseconds / 1000000000 ≤ 1 := by
  rcases whole with full | ⟨leap, -⟩ <;> omega

/-- The date and the time of an instant in Greenwich. -/
def Instant.civil (t : Instant) : CivilTime :=
  let clock := (t.seconds % 86400).toNat
  ⟨Date.ofDays (t.seconds / 86400), clock / 3600, clock / 60 % 60,
    clock % 60 + t.nanoseconds / 1000000000⟩

/-- The year in which an instant lies. -/
def Instant.year (t : Instant) : Int := (Date.ofDays (t.seconds / 86400)).year

section Instants

variable {t : Instant}

theorem isValid_civil (whole : t.IsWholeSecond) (low : 0 ≤ t.year) : t.civil.IsValid := by
  have real := Date.isValid_ofDays (t.seconds / 86400)
  refine ⟨low, real, ?_, ?_, ?_⟩
  · dsimp only [Instant.civil]
    omega
  · dsimp only [Instant.civil]
    omega
  · have carry := whole.carry_le
    dsimp only [Instant.civil]
    omega

/-- The date and the time of a whole second denote it. -/
theorem instant_civil (whole : t.IsWholeSecond) (low : 0 ≤ t.year) : t.civil.instant 0 0 = t := by
  have valid := isValid_civil whole low
  have days := Date.toDays_add valid.year valid.date
  have date : t.civil.date.toDays = t.seconds / 86400 := Date.toDays_ofDays _
  have clock : (t.civil.hour * 60 + t.civil.minute) * 60 + t.civil.second =
      (t.seconds % 86400).toNat + t.nanoseconds / 1000000000 := by
    dsimp only [Instant.civil]
    omega
  have second : t.civil.second = (t.seconds % 86400).toNat % 60 + t.nanoseconds / 1000000000 := rfl
  have leap : t.civil.leap = t.nanoseconds / 1000000000 := by
    rcases whole with full | ⟨late, last⟩
    · rw [CivilTime.leap, if_neg (by omega), full]
    · rw [CivilTime.leap, if_pos (by omega), late]
  have nanoseconds : t.nanoseconds = t.nanoseconds / 1000000000 * 1000000000 := by
    rcases whole with full | ⟨late, -⟩ <;> omega
  rw [date] at days
  rw [CivilTime.instant, CivilTime.seconds_epoch, CivilTime.seconds, CivilTime.minutes, leap]
  refine congrArg₂ Instant.mk ?_ ?_
  · omega
  · omega

/-- The written form of an instant of the years 0 to 9999. -/
theorem toList_formatHttpDate (low : 0 ≤ t.year) (high : t.year ≤ 9999) :
    (formatHttpDate t).toList = t.civil.httpChars := by
  have year : formatYear (Date.ofDays (t.seconds / 86400)).year = padded 4 t.year.toNat := by
    rw [formatYear, ← Instant.year, if_pos (by simp [low, high])]
  have weekday := Date.weekdayOfDays_toDays low (Date.isValid_ofDays (t.seconds / 86400))
  rw [Date.toDays_ofDays] at weekday
  have comma : ", ".toList = [',', ' '] := by decide
  have blank : " ".toList = [' '] := by decide
  have colon : ":".toList = [':'] := by decide
  have zone : " GMT".toList = [' ', 'G', 'M', 'T'] := by decide
  simp only [formatHttpDate, CivilTime.httpChars, Instant.civil, ← weekday, year, Instant.year,
    String.toList_append, List.append_assoc, comma, blank, colon, zone, List.cons_append,
    List.nil_append]

/-- The written form of a whole second of the years 0 to 9999 is read as that second. -/
theorem httpInstant?_formatHttpDate (whole : t.IsWholeSecond) (low : 0 ≤ t.year)
    (high : t.year ≤ 9999) : httpInstant? (formatHttpDate t).toList = some t := by
  rw [toList_formatHttpDate low high, httpInstant?_httpChars (isValid_civil whole low) high,
    instant_civil whole low]

/-- A lenient date is read as a whole second. -/
theorem isWholeSecond_of_httpInstant? {cs : List Char} (read : httpInstant? cs = some t) :
    t.IsWholeSecond := by
  obtain ⟨d, spells, instant⟩ := httpInstant?_eq_some_iff.1 read
  obtain ⟨valid, -, rfl⟩ := (MailDate.instant?_eq_some_iff spells.year_nonneg).1 instant
  obtain ⟨seconds, nanoseconds, leap⟩ := MailDate.seconds_instant valid.civil
  have whole := MailDate.start_mod spells.minutes
  rw [Instant.IsWholeSecond]
  omega

/-- The written form of a whole second of the years 0 to 9999 stays as it is. -/
theorem normalizeHttpDate?_formatHttpDate (whole : t.IsWholeSecond) (low : 0 ≤ t.year)
    (high : t.year ≤ 9999) : normalizeHttpDate? (formatHttpDate t) = some (formatHttpDate t) := by
  have trimmed : Text.trimList (formatHttpDate t).toList = (formatHttpDate t).toList := by
    rw [toList_formatHttpDate low high]
    exact trimList_httpChars _
  rw [normalizeHttpDate?, trimmed, httpInstant?_formatHttpDate whole low high]
  rfl

end Instants

/-! ## The length of a date -/

theorem weekdayOfDays_lt (days : Int) : weekdayOfDays days < 7 := by
  rw [weekdayOfDays]
  omega

theorem length_weekday {i : Nat} (known : i < 7) : (weekdayTexts.getD i "").toList.length = 3 := by
  interval_cases i <;> rfl

theorem length_month {i : Nat} (known : i < 12) : (monthTexts.getD i "").toList.length = 3 := by
  interval_cases i <;> rfl

theorem le_length_padded (width n : Nat) : width ≤ (padded width n).toList.length := by
  rw [toList_padded, List.length_append, List.length_replicate]
  omega

/-- A year is written with four characters exactly if it is one of 0 to 9999. -/
theorem length_formatYear_eq_iff (year : Int) :
    (formatYear year).length = 4 ↔ 0 ≤ year ∧ year ≤ 9999 := by
  rw [formatYear, ← String.length_toList]
  split
  · next within =>
    obtain ⟨low, high⟩ : 0 ≤ year ∧ year ≤ 9999 := by simpa using within
    have four : (padded 4 year.toNat).toList.length = 4 := length_padded (by decide) (by omega)
    simp [four, low, high]
  · next outside =>
    have more := le_length_padded 4 year.natAbs
    constructor
    · intro four
      rw [String.toList_append, List.length_append] at four
      split at four <;> simp at four <;> omega
    · intro within
      simp [within] at outside

/-- A written date has 29 characters exactly if its year is one of 0 to 9999. -/
theorem length_formatHttpDate_eq_iff (t : Instant) (whole : t.IsWholeSecond) :
    (formatHttpDate t).length = 29 ↔ 0 ≤ t.year ∧ t.year ≤ 9999 := by
  obtain ⟨months, -, fits⟩ := Date.month_and_day_ofDays (t.seconds / 86400)
  have short := fits.trans (daysInMonth_le _ _)
  have second := whole.carry_le
  have two {n : Nat} (small : n < 100) : (padded 2 n).toList.length = 2 :=
    length_padded (by decide) small
  rw [Instant.year, ← length_formatYear_eq_iff]
  simp only [formatHttpDate, ← String.length_toList, String.toList_append, List.length_append]
  rw [length_weekday (weekdayOfDays_lt _), length_month (by omega), two (by omega), two (by omega),
    two (by omega), two (by omega)]
  have comma : ", ".toList.length = 2 := by decide
  have blank : " ".toList.length = 1 := by decide
  have colon : ":".toList.length = 1 := by decide
  have zone : " GMT".toList.length = 4 := by decide
  omega

/-- A date that has been brought into its written form stays as it is, if its year is one of 0 to
9999. -/
theorem normalizeHttpDate?_idem {x y : String} (normal : normalizeHttpDate? x = some y)
    (written : y.length = 29) : normalizeHttpDate? y = some y := by
  obtain ⟨t, read, rfl⟩ := Option.map_eq_some_iff.1 normal
  have whole := isWholeSecond_of_httpInstant? read
  obtain ⟨low, high⟩ := (length_formatHttpDate_eq_iff t whole).1 written
  exact normalizeHttpDate?_formatHttpDate whole low high

/-- A blank text is not a date. -/
theorem normalizeHttpDate?_of_isBlankText {s : String} (blank : Text.isBlankText s = true) :
    normalizeHttpDate? s = none := by
  have empty : Text.trimList s.toList = [] := by
    rw [Text.trimList, List.dropWhile_eq_nil_iff.2 (List.all_eq_true.1 blank)]
    rfl
  rw [normalizeHttpDate?, empty]
  rfl

theorem bind_normalizeHttpDate?_filter (date? : Option String) :
    (date?.filter fun s => !Text.isBlankText s).bind normalizeHttpDate? =
      date?.bind normalizeHttpDate? := by
  cases date? with
  | none => rfl
  | some s =>
    cases blank : Text.isBlankText s with
    | true => simp [Option.filter, blank, normalizeHttpDate?_of_isBlankText blank]
    | false => simp [Option.filter, blank]

end Time

end ConferenceSync
