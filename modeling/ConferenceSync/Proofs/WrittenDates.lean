import ConferenceSync.Proofs.ConditionalRequests

/-!
# The canonical form of dates

A lenient date has many spellings and one written form, which is that of the same second in
Greenwich. What has been written is accepted as a date and stays as it is, so the date of a data set
comes back to the server as it has been kept.

## Main definitions

* `MailDate.HasFourDigits` — that a date lies in the years 0 to 9999 in Greenwich

## Main results

* `MailDate.year_instant_iff` — the year of the instant of a date
* `eq_formatHttpDate_of_spells` — what is written for a date that is spelled
* `written_dates_are_canonical` — it is the same second, and it stays as it is
-/

namespace ConferenceSync.Time

/-- Whether the minute of a date is one of the years 0 to 9999 in Greenwich. -/
def MailDate.HasFourDigits (d : MailDate) : Prop :=
  0 ≤ d.start ∧ d.start < Date.daysBeforeYear 10000 * 86400

/-- The year of an instant has four digits exactly if its minute is one of such a year. -/
theorem MailDate.year_instant_iff {d : MailDate} (valid : d.civil.IsValid)
    (minutes : d.offset % 60 = 0) :
    0 ≤ (d.civil.instant 0 d.offset).year ∧ (d.civil.instant 0 d.offset).year ≤ 9999 ↔
      d.HasFourDigits := by
  have whole := start_mod minutes
  obtain ⟨seconds, -, leap⟩ := seconds_instant valid
  rw [Instant.year, Date.year_ofDays_iff, HasFourDigits]
  omega

/-- A date that is spelled and has been written is a real one. What has been written is its instant,
which is a whole second. -/
theorem eq_formatHttpDate_of_spells {x y : String} {d : MailDate}
    (normal : normalizeHttpDate? x = some y) (spells : Spells (Text.trimList x.toList) d) :
    d.IsValid ∧ (d.civil.instant 0 d.offset).IsWholeSecond ∧
      y = formatHttpDate (d.civil.instant 0 d.offset) := by
  obtain ⟨t, read, rfl⟩ := Option.map_eq_some_iff.1 normal
  have whole := isWholeSecond_of_httpInstant? read
  rw [httpInstant?_eq_of_spells spells] at read
  obtain ⟨valid, -, rfl⟩ := (MailDate.instant?_eq_some_iff spells.year_nonneg).1 read
  exact ⟨valid, whole, rfl⟩

/-- The written form of dates is a canonical one. A whole second of the years 0 to 9999 is written
in a form that stays as it is. Whatever is accepted as a date spells a real one. If that is in those
years in Greenwich, it is written with 29 characters as the same second there, a leap second
included, with the day of the week that its date has. What has been written stays as it is, and a
cycle that starts from it asks for a manifest that has changed since then. -/
theorem written_dates_are_canonical :
    (∀ t : Instant, t.IsWholeSecond → 0 ≤ t.year → t.year ≤ 9999 →
      normalizeHttpDate? (formatHttpDate t) = some (formatHttpDate t)) ∧
    ∀ x y, normalizeHttpDate? x = some y →
      (∃ d, Spells (Text.trimList x.toList) d) ∧
      ∀ d, Spells (Text.trimList x.toList) d → d.IsValid ∧ (d.HasFourDigits →
        (∃ u : CivilTime, u.IsValid ∧ u.date.year ≤ 9999 ∧ y.toList = u.httpChars ∧ y.length = 29 ∧
          (u.minutes : Int) * 60 = d.start ∧ u.second = d.civil.second) ∧
        normalizeHttpDate? y = some y ∧
        ∀ (σ : Type) (env : Environment σ) (settings : Fetch.Settings) (w : World (σ × Transcript)),
          ∃ ask, w.asks ++ [ask] <+:
              ((Fetch.fetchIfNewer env.transcribed settings (some y)).run.run w).2.asks ∧
            ask.url = settings.effectiveUrl ∧ ask.since? = some y) := by
  constructor
  · intro t whole low high
    exact normalizeHttpDate?_formatHttpDate whole low high
  intro x y normal
  constructor
  · obtain ⟨t, read, -⟩ := Option.map_eq_some_iff.1 normal
    obtain ⟨d, spells, -⟩ := httpInstant?_eq_some_iff.1 read
    exact ⟨d, spells⟩
  · intro d spells
    obtain ⟨valid, whole, rfl⟩ := eq_formatHttpDate_of_spells normal spells
    refine ⟨valid, ?_⟩
    intro within
    have minutes := spells.minutes
    obtain ⟨low, high⟩ := (MailDate.year_instant_iff valid.civil minutes).2 within
    have length := (length_formatHttpDate_eq_iff _ whole).2 ⟨low, high⟩
    have stays := normalizeHttpDate?_formatHttpDate whole low high
    have real := isValid_civil whole low
    obtain ⟨minute, second⟩ := MailDate.start_eq_of_instant_eq real valid.civil minutes
      (instant_civil whole low)
    refine ⟨⟨_, real, high, toList_formatHttpDate low high, length, minute, second⟩, stays, ?_⟩
    intro σ env settings w
    obtain ⟨ask, first, url, since, -⟩ := Fetch.exists_ask_of_fetchIfNewer env settings
      (some (formatHttpDate (d.civil.instant 0 d.offset))) w
    rw [Option.bind_some, stays] at since
    exact ⟨ask, first, url, since⟩

/-- The leap second at the end of 1998, as a lenient date has it an hour east of Greenwich. -/
theorem spells_leap_second :
    Spells "Fri, 1 Jan 99 00:59:60 +0100".toList ⟨some 5, ⟨⟨1999, 1, 1⟩, 0, 59, 60⟩, 3600⟩ := by
  have one : Numeral 1 2 "1".toList 1 := ⟨List.all_eq_true.1 rfl, by decide, by decide, rfl⟩
  have two (digits : List Char) (two : digits.length = 2)
      (only : digits.all Text.isDigit = true) :
      Numeral 2 2 digits (Nat.ofDigitChars 10 digits 0) :=
    ⟨List.all_eq_true.1 only, two.ge, two.le, rfl⟩
  have space : Blanks [' '] := List.all_eq_true.1 rfl
  have blanks : Blanks ([] ++ ([' '] ++ ([' '] ++ ([' '] ++ ([] ++ ([] ++ [' '])))))) :=
    List.all_eq_true.1 rfl
  have apart : [' '] ≠ [] := by decide
  have friday := WeekdayWord.given ⟨rfl, (by decide : weekdayNames[5]? =
    some (String.ofList ("Fri".toList.map Text.lowerAsciiChar)))⟩ space
  have january : Named monthNames "Jan".toList 0 := ⟨rfl, by decide⟩
  have year : YearWord "99".toList 1999 := ⟨99, two _ rfl rfl, rfl⟩
  have second := SecondWord.given (List.forall_mem_nil _) (two "60".toList rfl rfl)
  have zone := ZoneWord.offset false (two "01".toList rfl rfl) (two "00".toList rfl rfl)
    (by decide)
  exact .date blanks ⟨apart, apart, apart, apart⟩ friday one january year
    (two "00".toList rfl rfl) (two "59".toList rfl rfl) second zone .nil

theorem written_dates_are_canonical_leap_second :
    normalizeHttpDate? "Fri, 1 Jan 99 00:59:60 +0100" = some "Thu, 31 Dec 1998 23:59:60 GMT" ∧
      normalizeHttpDate? "Thu, 31 Dec 1998 23:59:60 GMT" =
        some "Thu, 31 Dec 1998 23:59:60 GMT" := by
  have normal : normalizeHttpDate? "Fri, 1 Jan 99 00:59:60 +0100" =
      some "Thu, 31 Dec 1998 23:59:60 GMT" := by decide +kernel
  have trimmed : Text.trimList "Fri, 1 Jan 99 00:59:60 +0100".toList =
      "Fri, 1 Jan 99 00:59:60 +0100".toList := by decide
  have spells := spells_leap_second
  rw [← trimmed] at spells
  obtain ⟨valid, stays⟩ := (written_dates_are_canonical.2 _ _ normal).2 _ spells
  refine ⟨normal, (stays ?_).2.1⟩
  -- The first of January of 1999 is the day of this number, counted from the start of the year 0.
  have count := Date.toDays_add valid.civil.year valid.civil.date
  have days : Date.toDays ⟨1999, 1, 1⟩ = 10592 := by decide
  dsimp only at count
  rw [MailDate.HasFourDigits, MailDate.start, CivilTime.minutes, Date.daysBeforeYear_eq]
  dsimp only
  omega

end ConferenceSync.Time
