import ConferenceSync.Proofs.HttpDates
import ConferenceSync.Proofs.Slugs
import ConferenceSync.Time.Timestamp

/-!
# Spellings of an instant

A timestamp is a date and a time with a zone and perhaps a fraction of a second, a date and a time
in Greenwich without either, or a number of milliseconds. Each of these spellings is read as the
exact number of milliseconds from the start of 1970 to the instant that it denotes, rounded down.
None of them is taken for another one: without a zone there is nothing to read after the seconds,
and a whole number has a minus sign only in front.

## Main definitions

* `Fraction`, `Zone` — a fraction of a second, the zone of a timestamp
* `CivilTime.isoChars` — a date and a time as a timestamp has it
* `Denotes` — which instant a spelling denotes

## Main results

* `zonedInstant?_eq`, `localInstant?_eq` — dates and times are read as they are written
* `zonedInstant?_isoChars` — without a zone they are not taken for ones with a zone
* `timestampOfJson_eq` — every spelling of an instant is read as its milliseconds
-/

namespace ConferenceSync.Time

/-! ## Spellings -/

/-- A fraction of a second: the number of its decimal digits, and the number that they stand for. -/
structure Fraction where
  digits : Nat
  value : Nat
  deriving DecidableEq, Repr

namespace Fraction

/-- Whether the digits of a fraction are enough for its number, and not too many to count in
nanoseconds. -/
structure IsValid (f : Fraction) : Prop where
  digits : 1 ≤ f.digits ∧ f.digits ≤ 9
  value : f.value < 10 ^ f.digits

/-- The number of nanoseconds. -/
def nanoseconds (f : Fraction) : Nat := f.value * 10 ^ (9 - f.digits)

/-- The characters of a fraction. -/
def chars (f : Fraction) : List Char := '.' :: (padded f.digits f.value).toList

theorem IsValid.nanoseconds_lt {f : Fraction} (valid : f.IsValid) :
    f.nanoseconds < 1000000000 := by
  have scaled : f.value * 10 ^ (9 - f.digits) < 10 ^ f.digits * 10 ^ (9 - f.digits) :=
    Nat.mul_lt_mul_of_pos_right valid.value (Nat.pow_pos (by decide))
  rw [← Nat.pow_add, Nat.add_sub_cancel' valid.digits.2] at scaled
  exact scaled

end Fraction

/-- The zone of a timestamp: Greenwich by its letter, or hours and minutes east or west of it. -/
inductive Zone where
  | greenwich
  | offset (west : Bool) (hours minutes : Nat)
  deriving DecidableEq, Repr

namespace Zone

/-- Whether a zone is less than a day away from Greenwich. -/
def IsValid : Zone → Prop
  | greenwich => True
  | offset _ hours minutes => hours ≤ 23 ∧ minutes ≤ 59

/-- The seconds east of Greenwich. -/
def seconds : Zone → Int
  | greenwich => 0
  | offset west hours minutes =>
    if west then -(hours * 3600 + minutes * 60) else hours * 3600 + minutes * 60

/-- The characters of a zone. -/
def chars : Zone → List Char
  | greenwich => ['Z']
  | offset west hours minutes =>
    (if west then '-' else '+') :: ((padded 2 hours).toList ++ ':' :: (padded 2 minutes).toList)

theorem IsValid.natAbs_seconds_lt {zone : Zone} (valid : zone.IsValid) :
    zone.seconds.natAbs < 86400 := by
  cases zone with
  | greenwich => decide
  | offset west hours minutes =>
    obtain ⟨few, less⟩ := valid
    rw [seconds]
    split <;> omega

/-- A zone starts with no digit and no point. -/
theorem exists_chars_eq (zone : Zone) :
    ∃ c rest, zone.chars = c :: rest ∧ Text.isDigit c = false ∧ c ≠ '.' := by
  rcases zone with _ | ⟨_ | _, _, _⟩
  · exact ⟨_, _, rfl, rfl, by decide⟩
  · exact ⟨_, _, rfl, rfl, by decide⟩
  · exact ⟨_, _, rfl, rfl, by decide⟩

end Zone

/-- The characters of a date and a time. -/
def CivilTime.isoChars (u : CivilTime) : List Char :=
  (padded 4 u.date.year.toNat).toList ++ '-' :: ((padded 2 u.date.month).toList ++
    '-' :: ((padded 2 u.date.day).toList ++ 'T' :: ((padded 2 u.hour).toList ++
      ':' :: ((padded 2 u.minute).toList ++ ':' :: (padded 2 u.second).toList))))

/-! ## Dates and times are read as they are written -/

section Reading

variable {u : CivilTime} {rest : List Char}

theorem scanNumber_four {n : Nat} (small : n < 10000) (rest : List Char) :
    scanNumber 4 4 ((padded 4 n).toList ++ rest) = some (n, rest) :=
  scanNumber_padded (by decide) small le_rfl le_rfl (.inl rfl)

/-- A year without a sign has at most four digits. -/
theorem scanYear_padded {n : Nat} (small : n < 10000) (rest : List Char) :
    scanYear ((padded 4 n).toList ++ rest) = some ((n : Int), rest) := by
  have numeral : Numeral 1 4 (padded 4 n).toList n :=
    numeral_padded (by decide) small (by decide) le_rfl
  have read : scanNumber 1 4 ((padded 4 n).toList ++ rest) = some (n, rest) :=
    scanNumber_append numeral (.inl (length_padded (by decide) small))
  obtain ⟨c, cs, same, digit⟩ := numeral.exists_digit (by decide)
  rw [scanYear, skipBlanks_padded (by decide) small]
  rw [same, List.cons_append] at read ⊢
  split
  · next minus =>
    obtain ⟨rfl, -⟩ := List.cons.inj minus
    exact absurd digit (by decide)
  · next plus =>
    obtain ⟨rfl, -⟩ := List.cons.inj plus
    exact absurd digit (by decide)
  · rw [read]
    rfl

theorem scanField_padded {n : Nat} (small : n < 100) (rest : List Char) :
    scanField ((padded 2 n).toList ++ rest) = some (n, rest) := by
  rw [scanField, skipBlanks_padded (by decide) small, scanNumber_two (by decide) small]

/-- The digits of a fraction are read up to the zone. -/
theorem scanNanoseconds_eq {f : Fraction} (valid : f.IsValid)
    (ends : NoDigit rest) :
    scanNanoseconds ((padded f.digits f.value).toList ++ rest) = some (f.nanoseconds, rest) := by
  obtain ⟨⟨first, last⟩, fits⟩ := valid
  have length := length_padded first fits
  have stop : rest.dropWhile Text.isDigit = rest := by
    cases rest with
    | nil => rfl
    | cons c rest => exact List.dropWhile_cons_of_neg (by simp [ends c rfl])
  rw [scanNanoseconds, scanNumber_padded first fits first last (.inr ends), Option.map_some]
  dsimp only
  rw [stop, List.length_append, length, Nat.add_sub_cancel]
  rfl

/-- A zone is read to its end. -/
theorem scanZone_eq {zone : Zone} (valid : zone.IsValid) :
    scanZone zone.chars = some (zone.seconds, []) := by
  cases zone with
  | greenwich => rfl
  | offset west hours minutes =>
    obtain ⟨few, less⟩ := valid
    have minutesRead := scanNumber_two (le_refl 2) (show minutes < 100 by omega) []
    rw [List.append_nil] at minutesRead
    have near : (Zone.offset west hours minutes).seconds.natAbs < 86400 :=
      Zone.IsValid.natAbs_seconds_lt ⟨few, less⟩
    have read : scanOffset true true (Zone.offset west hours minutes).chars =
        some ((Zone.offset west hours minutes).seconds, []) := by
      have sign : scanSign true (Zone.offset west hours minutes).chars =
          some (west, (padded 2 hours).toList ++ ':' :: (padded 2 minutes).toList) := by
        cases west <;> rfl
      rw [scanOffset, sign, bind_of_some]
      dsimp only
      rw [scanNumber_two le_rfl (by omega), bind_of_some]
      dsimp only
      rw [if_pos rfl, scanChar_self, bind_of_some, minutesRead, bind_of_some]
      dsimp only
      rw [if_neg (by omega)]
      rfl
    have opens : scanZone (Zone.offset west hours minutes).chars =
        (scanOffset true true (Zone.offset west hours minutes).chars).filter
          fun read => decide (read.1.natAbs < 86400) := by
      cases west <;> rfl
    rw [opens, read, Option.filter_some, if_pos (by simpa using near)]

/-- Reads a fraction of a second as nanoseconds if there is one. -/
def scanFractionIfAny : List Char → Scan Nat
  | '.' :: rest => scanNanoseconds rest
  | rest => some (0, rest)

/-- After a date and a time there is a fraction or none, then a zone. -/
theorem zonedInstant?_isoChars_append (small : u.Small) (rest : List Char) :
    zonedInstant? (u.isoChars ++ rest) = (do
      let (nanosecond, rest) ← scanFractionIfAny rest
      let (offset, rest) ← scanZone rest
      if !rest.isEmpty then none
      else
        let date ← Date.of? u.date.year.toNat u.date.month u.date.day
        let time ← TimeOfDay.of? u.hour u.minute u.second nanosecond
        Instant.ofLocal? date time offset) := by
  simp only [CivilTime.isoChars, List.append_assoc, List.cons_append]
  rw [zonedInstant?, scanNumber_four small.year, bind_of_some]
  dsimp only
  rw [scanChar_self, bind_of_some, scanNumber_two le_rfl small.month, bind_of_some]
  dsimp only
  rw [scanChar_self, bind_of_some, scanNumber_two le_rfl small.day, bind_of_some]
  dsimp only
  rw [if_pos (by decide), bind_of_some, scanNumber_two le_rfl small.hour, bind_of_some]
  dsimp only
  rw [scanChar_self, bind_of_some, scanNumber_two le_rfl small.minute, bind_of_some]
  dsimp only
  rw [scanChar_self, bind_of_some, scanNumber_two le_rfl small.second, bind_of_some]
  dsimp only
  split
  · rfl
  · next noPoint =>
    rw [scanFractionIfAny]
    exact noPoint

/-- The nanoseconds of a fraction, if there is one. -/
def fractionNanoseconds (fraction? : Option Fraction) : Nat :=
  fraction?.elim 0 Fraction.nanoseconds

/-- The characters of a fraction, if there is one. -/
def fractionChars (fraction? : Option Fraction) : List Char := fraction?.elim [] Fraction.chars

/-- The fraction is read up to the zone. -/
theorem scanFractionIfAny_eq {fraction? : Option Fraction} (valid : ∀ f ∈ fraction?, f.IsValid)
    (zone : Zone) :
    scanFractionIfAny (fractionChars fraction? ++ zone.chars) =
      some (fractionNanoseconds fraction?, zone.chars) := by
  obtain ⟨c, rest, split, noDigit, noPoint⟩ := zone.exists_chars_eq
  cases fraction? with
  | none =>
    show scanFractionIfAny zone.chars = some (0, zone.chars)
    rw [split, scanFractionIfAny]
    rintro rest same
    exact noPoint (List.cons.inj same).1
  | some f =>
    refine scanNanoseconds_eq (valid f rfl) ?_
    rw [split]
    rintro _ ⟨⟩
    exact noDigit

/-- A timestamp with a zone is read as its instant. -/
theorem zonedInstant?_eq {fraction? : Option Fraction} {zone : Zone} (valid : u.IsValid)
    (high : u.date.year ≤ 9999) (fraction : ∀ f ∈ fraction?, f.IsValid) (zoned : zone.IsValid) :
    zonedInstant? (u.isoChars ++ (fractionChars fraction? ++ zone.chars)) =
      some (u.instant (fractionNanoseconds fraction?) zone.seconds) := by
  have short : fractionNanoseconds fraction? < 1000000000 := by
    cases fraction? with
    | none => decide
    | some f => exact (fraction f rfl).nanoseconds_lt
  have instant := CivilTime.instant?_eq valid high short zoned.natAbs_seconds_lt
  rw [zonedInstant?_isoChars_append (valid.small high), scanFractionIfAny_eq fraction, bind_of_some]
  dsimp only
  rw [scanZone_eq zoned, bind_of_some]
  dsimp only
  rw [if_neg (by decide), Int.toNat_of_nonneg valid.year]
  exact instant

/-- Without a zone there is nothing to read after the seconds. -/
theorem zonedInstant?_isoChars (small : u.Small) : zonedInstant? u.isoChars = none := by
  have read := zonedInstant?_isoChars_append small []
  rw [List.append_nil] at read
  exact read

/-- A date and a time without a zone are read as those of Greenwich. -/
theorem localInstant?_eq (valid : u.IsValid) (high : u.date.year ≤ 9999) :
    localInstant? u.isoChars = some (u.instant 0 0) := by
  have small := valid.small high
  have instant := CivilTime.instant?_eq valid high (by decide : 0 < 1000000000)
    (by decide : (0 : Int).natAbs < 86400)
  have second := scanField_padded small.second []
  rw [List.append_nil] at second
  rw [localInstant?, CivilTime.isoChars, scanYear_padded small.year, bind_of_some]
  dsimp only
  rw [scanChar_self, bind_of_some, scanField_padded small.month, bind_of_some]
  dsimp only
  rw [scanChar_self, bind_of_some, scanField_padded small.day, bind_of_some]
  dsimp only
  rw [scanChar_self, bind_of_some, scanField_padded small.hour, bind_of_some]
  dsimp only
  rw [scanChar_self, bind_of_some, scanField_padded small.minute, bind_of_some]
  dsimp only
  rw [scanChar_self, bind_of_some, second, bind_of_some]
  dsimp only
  rw [if_neg (by decide), Int.toNat_of_nonneg valid.year]
  exact instant

end Reading

/-! ## Whole numbers are no dates -/

section WholeNumbers

variable {cs rest : List Char}

/-- A number takes away the first character at least. -/
theorem suffix_of_scanNumber {least most n : Nat} (pos : 0 < least)
    (read : scanNumber least most cs = some (n, rest)) : rest <:+ cs.tail := by
  obtain ⟨word, rfl, numeral⟩ := sound_scanNumber least most cs n rest read
  obtain ⟨c, word, rfl, -⟩ := numeral.exists_digit pos
  exact List.suffix_append word rest

theorem tail_skipBlanks_suffix (cs : List Char) : (skipBlanks cs).tail <:+ cs.tail := by
  cases cs with
  | nil => exact List.suffix_rfl
  | cons c cs =>
    by_cases blank : Text.isBlank c = true
    · rw [skipBlanks, List.dropWhile_cons_of_pos blank]
      exact (List.tail_suffix _).trans (List.dropWhile_suffix _)
    · rw [skipBlanks, List.dropWhile_cons_of_neg blank]

/-- A year does too, with its sign. -/
theorem suffix_of_scanYear {year : Int} (read : scanYear cs = some (year, rest)) :
    rest <:+ cs.tail := by
  have shorter := tail_skipBlanks_suffix cs
  rw [scanYear] at read
  split at read
  · next signed =>
    obtain ⟨⟨n, after⟩, number, same⟩ := Option.map_eq_some_iff.1 read
    obtain ⟨-, rfl⟩ := Prod.mk.inj same
    rw [signed] at shorter
    exact ((suffix_of_scanNumber (by decide) number).trans (List.tail_suffix _)).trans shorter
  · next signed =>
    obtain ⟨⟨n, after⟩, number, same⟩ := Option.map_eq_some_iff.1 read
    obtain ⟨-, rfl⟩ := Prod.mk.inj same
    rw [signed] at shorter
    exact ((suffix_of_scanNumber (by decide) number).trans (List.tail_suffix _)).trans shorter
  · obtain ⟨⟨n, after⟩, number, same⟩ := Option.map_eq_some_iff.1 read
    obtain ⟨-, rfl⟩ := Prod.mk.inj same
    exact (suffix_of_scanNumber (by decide) number).trans shorter

theorem scanChar_eq_none {c : Char} (none : c ∉ cs) : scanChar c cs = .none := by
  cases cs with
  | nil => rfl
  | cons d cs => exact if_neg (List.ne_of_not_mem_cons none).symm

/-- A date and a time with a zone have a dash behind the year. -/
theorem zonedInstant?_eq_none (dashes : '-' ∉ cs.tail) : zonedInstant? cs = none := by
  rw [zonedInstant?]
  refine Option.bind_eq_none_iff.2 ?_
  rintro ⟨year, rest⟩ read
  have none : '-' ∉ rest := fun there =>
    dashes ((suffix_of_scanNumber (by decide) read).subset there)
  dsimp only
  rw [scanChar_eq_none none]
  rfl

/-- So do those without a zone. -/
theorem localInstant?_eq_none (dashes : '-' ∉ cs.tail) : localInstant? cs = none := by
  rw [localInstant?]
  refine Option.bind_eq_none_iff.2 ?_
  rintro ⟨year, rest⟩ read
  have none : '-' ∉ rest := fun there => dashes ((suffix_of_scanYear read).subset there)
  dsimp only
  rw [scanChar_eq_none none]
  rfl

/-- The minus sign of a whole number is its first character. -/
theorem dash_not_mem_tail_toString (n : Int) : '-' ∉ (toString n).toList.tail := by
  have digits : '-' ∉ Nat.toDigits 10 n.natAbs := fun there =>
    absurd (Text.isDigit_of_mem_toDigits there) (by decide)
  rw [Text.toList_toString]
  split
  · exact digits
  · exact fun there => digits (List.mem_of_mem_tail there)

end WholeNumbers

/-! ## Spellings of an instant -/

/-- No character of a date and a time is a blank. -/
theorem isBlank_of_mem_isoChars {u : CivilTime} :
    ∀ c ∈ u.isoChars, Text.isBlank c = false := by
  have digits {width n : Nat} : ∀ c ∈ (padded width n).toList, Text.isBlank c = false :=
    fun c there => Text.isBlank_eq_false_of_isDigit (isDigit_of_mem_padded there)
  simp only [CivilTime.isoChars, List.forall_mem_append, List.forall_mem_cons]
  exact ⟨digits, rfl, digits, rfl, digits, rfl, digits, rfl, digits, rfl, digits⟩

/-- Nor is one of a fraction or a zone. -/
theorem isBlank_of_mem_zoneChars (fraction? : Option Fraction) (zone : Zone) :
    ∀ c ∈ fractionChars fraction? ++ zone.chars, Text.isBlank c = false := by
  have digits {width n : Nat} : ∀ c ∈ (padded width n).toList, Text.isBlank c = false :=
    fun c there => Text.isBlank_eq_false_of_isDigit (isDigit_of_mem_padded there)
  refine List.forall_mem_append.2 ⟨?_, ?_⟩
  · cases fraction? with
    | none => exact List.forall_mem_nil _
    | some f => exact List.forall_mem_cons.2 ⟨rfl, digits⟩
  · rcases zone with _ | ⟨west, hours, minutes⟩
    · exact List.forall_mem_singleton.2 rfl
    · have sign : Text.isBlank (if west then '-' else '+') = false := by cases west <;> rfl
      refine List.forall_mem_cons.2 ⟨sign, List.forall_mem_append.2 ⟨digits, ?_⟩⟩
      exact List.forall_mem_cons.2 ⟨rfl, digits⟩

/-- No character of a whole number is a blank. -/
theorem isBlank_of_mem_toString (n : Int) : ∀ c ∈ (toString n).toList, Text.isBlank c = false := by
  intro c there
  rcases Text.isDigit_or_eq_of_mem_toString there with digit | rfl
  · exact Text.isBlank_eq_false_of_isDigit digit
  · rfl

/-- The text of some characters between blanks. -/
def between (front core back : List Char) : String := String.ofList (front ++ (core ++ back))

/-- What instant a value denotes, in nanoseconds from the start of 1970: a date and a time with a
zone and perhaps a fraction of a second, a date and a time of Greenwich, or a number of
milliseconds. -/
inductive Denotes : Json → Int → Prop where
  | zoned {front back : List Char} {u : CivilTime} {fraction? : Option Fraction} {zone : Zone}
      (blanks : ∀ c ∈ front ++ back, Text.isBlank c = true) (valid : u.IsValid)
      (high : u.date.year ≤ 9999) (fraction : ∀ f ∈ fraction?, f.IsValid) (known : zone.IsValid) :
      Denotes
        (.string (between front (u.isoChars ++ (fractionChars fraction? ++ zone.chars)) back))
        (u.nanosecondsFromEpoch (fractionNanoseconds fraction?) zone.seconds)
  | civil {front back : List Char} {u : CivilTime}
      (blanks : ∀ c ∈ front ++ back, Text.isBlank c = true) (valid : u.IsValid)
      (high : u.date.year ≤ 9999) :
      Denotes (.string (between front u.isoChars back)) (u.nanosecondsFromEpoch 0 0)
  | decimal {front back : List Char} {n : Int}
      (blanks : ∀ c ∈ front ++ back, Text.isBlank c = true) (fits : Text.FitsInt64 n) :
      Denotes (.string (between front (toString n).toList back)) (n * 1000000)
  | number {n : Int} (fits : Text.FitsInt64 n) : Denotes (.number (.whole n)) (n * 1000000)

/-- Blanks around a timestamp do not count. -/
theorem timestampOfText_between {front core back : List Char}
    (blanks : ∀ c ∈ front ++ back, Text.isBlank c = true)
    (kept : ∀ c ∈ core, Text.isBlank c = false) :
    timestampOfText (between front core back) = timestampOfChars core := by
  obtain ⟨before, after⟩ := List.forall_mem_append.1 blanks
  have ends := Text.trimList_eq_self (fun c first => kept c (List.mem_of_mem_head? first))
    fun c last => kept c (List.mem_of_mem_getLast? last)
  rw [timestampOfText, between, String.toList_ofList, Text.trimList_between before after, ends]

/-- Every spelling of an instant is read as the milliseconds that have passed until then. -/
theorem timestampOfJson_eq {value : Json} {instant : Int} (denotes : Denotes value instant) :
    timestampOfJson value = instant / 1000000 := by
  cases denotes with
  | @zoned front back u fraction? zone blanks valid high fraction known =>
    have kept : ∀ c ∈ u.isoChars ++ (fractionChars fraction? ++ zone.chars),
        Text.isBlank c = false :=
      List.forall_mem_append.2 ⟨isBlank_of_mem_isoChars, isBlank_of_mem_zoneChars _ _⟩
    rw [timestampOfJson, timestampOfText_between blanks kept, timestampOfChars,
      zonedInstant?_eq valid high fraction known]
    exact CivilTime.millis_instant _ _ _
  | civil blanks valid high =>
    rw [timestampOfJson, timestampOfText_between blanks isBlank_of_mem_isoChars, timestampOfChars,
      zonedInstant?_isoChars (valid.small high), localInstant?_eq valid high]
    exact CivilTime.millis_instant _ _ _
  | @decimal front back n blanks fits =>
    have dashes := dash_not_mem_tail_toString n
    rw [timestampOfJson, timestampOfText_between blanks (isBlank_of_mem_toString n),
      timestampOfChars, zonedInstant?_eq_none dashes, localInstant?_eq_none dashes,
      Text.int64Of?_toString fits, Int.mul_ediv_cancel _ (by decide)]
    rfl
  | number fits =>
    rw [timestampOfJson, if_pos fits, Int.mul_ediv_cancel _ (by decide)]

end ConferenceSync.Time
