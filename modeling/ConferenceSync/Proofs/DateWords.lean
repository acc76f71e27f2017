import Mathlib.Data.List.DropRight
import Mathlib.Data.List.Nodup
import Mathlib.Data.List.TakeWhile
import ConferenceSync.Proofs.WholeNumbers
import ConferenceSync.Time.HttpDate

/-!
# The words of a mail date

Each word of a lenient date has its own grammar: which characters say what. The function that reads
the word is sound for the grammar, since it takes nothing else, and complete, since it takes all of
a word up to what may follow it.

## Main definitions

* `Sound`, `Complete` — that a function reads the words of a grammar and no others
* `Numeral`, `Named`, `YearWord`, `ZoneWord` — what digits, names, years and zones say
* `WeekdayWord`, `SecondWord` — what may be left out says something too
* `Blanks`, `Solid` — what stands between words, and how a word starts

## Main results

* `sound_scanNumber`, `sound_scanName`, `sound_scanMailZone` and so on — nothing else is read
* `complete_scanNumber`, `complete_scanName`, `complete_scanMailZone` and so on — every word is read
-/

namespace ConferenceSync.Time

/-- What has been read is there for what follows. -/
theorem bind_of_some {α β : Type} (a : α) (f : α → Option β) : (some a >>= f) = f a := rfl

/-- Whether what is read is always a word that says so. -/
def Sound {α : Type} (means : List Char → α → Prop) (scan : List Char → Scan α) : Prop :=
  ∀ cs a rest, scan cs = some (a, rest) → ∃ word, cs = word ++ rest ∧ means word a

/-- Whether every word is read as what it says if it is followed by something suitable. -/
def Complete {α : Type} (means : List Char → α → Prop) (suits : List Char → Prop)
    (scan : List Char → Scan α) : Prop :=
  ∀ word a rest, means word a → suits rest → scan (word ++ rest) = some (a, rest)

variable {cs rest gap word : List Char}

/-! ## Blanks -/

/-- Whether there is nothing but blanks. -/
def Blanks (cs : List Char) : Prop := ∀ c ∈ cs, Text.isBlank c = true

/-- Whether characters start with one that is not a blank. -/
def Solid (cs : List Char) : Prop := ∃ c rest, cs = c :: rest ∧ Text.isBlank c = false

theorem Solid.append (solid : Solid word) (rest : List Char) : Solid (word ++ rest) := by
  obtain ⟨c, cs, rfl, kept⟩ := solid
  exact ⟨c, cs ++ rest, rfl, kept⟩

theorem skipBlanks_of_solid (solid : Solid cs) : skipBlanks cs = cs := by
  obtain ⟨c, rest, rfl, kept⟩ := solid
  exact List.dropWhile_cons_of_neg (by simp [kept])

theorem skipBlanks_append (blanks : Blanks gap) (cs : List Char) :
    skipBlanks (gap ++ cs) = skipBlanks cs :=
  List.dropWhile_append_of_pos blanks

theorem skipBlanks_gap (blanks : Blanks gap) (solid : Solid rest) :
    skipBlanks (gap ++ rest) = rest :=
  (skipBlanks_append blanks rest).trans (skipBlanks_of_solid solid)

theorem skipBlanks_skipBlanks (cs : List Char) : skipBlanks (skipBlanks cs) = skipBlanks cs :=
  List.dropWhile_idempotent _ cs

/-- Blanks that may be left out. -/
theorem exists_gap (cs : List Char) : ∃ gap, cs = gap ++ skipBlanks cs ∧ Blanks gap :=
  ⟨_, List.takeWhile_append_dropWhile.symm, fun _ => List.mem_takeWhile_imp⟩

/-- Blanks that must not be left out. -/
theorem exists_gap_of_scanBlanks (read : scanBlanks cs = some rest) :
    ∃ gap, cs = gap ++ rest ∧ Blanks gap ∧ gap ≠ [] := by
  cases cs with
  | nil => cases read
  | cons c cs =>
    obtain ⟨blank, read⟩ := Option.ite_none_right_eq_some.1 read
    obtain rfl := Option.some.inj read
    obtain ⟨gap, split, blanks⟩ := exists_gap cs
    exact ⟨c :: gap, congrArg (c :: ·) split, List.forall_mem_cons.2 ⟨blank, blanks⟩,
      List.cons_ne_nil _ _⟩

theorem scanBlanks_gap (blanks : Blanks gap) (some : gap ≠ []) (solid : Solid rest) :
    scanBlanks (gap ++ rest) = .some rest := by
  obtain ⟨c, gap, rfl⟩ := List.exists_cons_of_ne_nil some
  obtain ⟨blank, blanks⟩ := List.forall_mem_cons.1 blanks
  rw [List.cons_append, scanBlanks, if_pos blank, skipBlanks_gap blanks solid]

theorem scanChar_self (c : Char) (rest : List Char) : scanChar c (c :: rest) = some rest :=
  if_pos rfl

theorem eq_cons_of_scanChar {c : Char} (read : scanChar c cs = some rest) : cs = c :: rest := by
  cases cs with
  | nil => cases read
  | cons d cs =>
    obtain ⟨same, read⟩ := Option.ite_none_right_eq_some.1 read
    rw [same, Option.some.inj read]

/-! ## Numbers -/

/-- Whether characters are the digits of a number, and as many as there may be. -/
structure Numeral (least most : Nat) (word : List Char) (n : Nat) : Prop where
  digits : ∀ c ∈ word, Text.isDigit c = true
  enough : least ≤ word.length
  fits : word.length ≤ most
  value : Nat.ofDigitChars 10 word 0 = n

/-- Whether no digit comes next. -/
def NoDigit (rest : List Char) : Prop := ∀ c ∈ rest.head?, Text.isDigit c = false

/-- A number starts with a digit. -/
theorem Numeral.exists_digit {least most n : Nat} (numeral : Numeral least most word n)
    (some : 0 < least) : ∃ c cs, word = c :: cs ∧ Text.isDigit c = true := by
  obtain ⟨digits, enough, -, -⟩ := numeral
  obtain ⟨c, cs, rfl⟩ := List.exists_cons_of_length_pos (Nat.lt_of_lt_of_le some enough)
  exact ⟨c, cs, rfl, digits c List.mem_cons_self⟩

theorem Numeral.solid {least most n : Nat} (numeral : Numeral least most word n)
    (some : 0 < least) : Solid word := by
  obtain ⟨c, cs, rfl, digit⟩ := numeral.exists_digit some
  exact ⟨c, cs, rfl, Text.isBlank_eq_false_of_isDigit digit⟩

theorem sound_scanNumber (least most : Nat) :
    Sound (Numeral least most) (scanNumber least most) := by
  intro cs n rest read
  rw [scanNumber] at read
  obtain ⟨long, read⟩ := Option.ite_none_left_eq_some.1 read
  obtain ⟨value, rfl⟩ := Prod.mk.inj (Option.some.inj read)
  have part : (cs.take most).takeWhile Text.isDigit <+: cs :=
    (List.takeWhile_prefix _).trans (List.take_prefix _ _)
  refine ⟨(cs.take most).takeWhile Text.isDigit, ?_, ?_⟩
  · rw [List.prefix_iff_eq_append.1 part]
  · have short := (List.takeWhile_prefix Text.isDigit (l := cs.take most)).length_le
    rw [List.length_take] at short
    exact ⟨fun _ => List.mem_takeWhile_imp, not_lt.1 long, by omega, value⟩

/-- As many digits are read as there are, if there are not too many. -/
theorem scanNumber_append {least most n : Nat} (numeral : Numeral least most word n)
    (ends : word.length = most ∨ NoDigit rest) :
    scanNumber least most (word ++ rest) = some (n, rest) := by
  obtain ⟨digits, enough, fits, value⟩ := numeral
  have part : ((word ++ rest).take most).takeWhile Text.isDigit = word := by
    rw [List.take_append, List.take_of_length_le fits, List.takeWhile_append_of_pos digits]
    rcases ends with rfl | ends
    · rw [Nat.sub_self]
      exact List.append_nil word
    · cases rest with
      | nil => simp
      | cons c rest =>
        cases most - word.length with
        | zero => simp
        | succ k => simp [ends c rfl]
  simp only [scanNumber, part]
  rw [if_neg (by omega), List.drop_left, Text.naturalFrom_eq_ofDigitChars, value]

theorem complete_scanNumber (least most : Nat) :
    Complete (Numeral least most) NoDigit (scanNumber least most) := by
  intro word n rest numeral ends
  exact scanNumber_append numeral (.inr ends)

/-- What follows a number of a fixed width does not matter. -/
theorem complete_scanNumber_self (width : Nat) :
    Complete (Numeral width width) (fun _ => True) (scanNumber width width) := by
  intro word n rest numeral _
  exact scanNumber_append numeral (.inl (le_antisymm numeral.fits numeral.enough))

/-- A number ends where blanks begin. -/
theorem noDigit_gap (blanks : Blanks gap) (some : gap ≠ []) (rest : List Char) :
    NoDigit (gap ++ rest) := by
  obtain ⟨c, gap, rfl⟩ := List.exists_cons_of_ne_nil some
  rintro _ ⟨⟩
  refine Bool.eq_false_iff.2 fun digit => ?_
  have blank := blanks c List.mem_cons_self
  rw [Text.isBlank_eq_false_of_isDigit digit] at blank
  cases blank

/-- What a year says depends on the number of its digits. -/
def YearWord (word : List Char) (year : Nat) : Prop :=
  ∃ n, Numeral 2 word.length word n ∧ year = expandYear word.length n

/-! ## Names -/

/-- A letter is not a blank. -/
theorem isBlank_eq_false_of_isLetter {c : Char} (letter : isLetter c = true) :
    Text.isBlank c = false := by
  have range : 0x61 ≤ c.toNat ∧ c.toNat ≤ 0x7a ∨ 0x41 ≤ c.toNat ∧ c.toNat ≤ 0x5a := by
    simpa [isLetter, Char.le_def, UInt32.le_iff_toNat_le] using letter
  simp [Text.isBlank]
  omega

theorem isLetter_eq_false_of_isDigit {c : Char} (digit : Text.isDigit c = true) :
    isLetter c = false := by
  have range : 0x30 ≤ c.toNat ∧ c.toNat ≤ 0x39 := by
    simpa [Text.isDigit, Char.le_def, UInt32.le_iff_toNat_le] using digit
  refine Bool.eq_false_iff.2 fun letter => ?_
  have other : 0x61 ≤ c.toNat ∧ c.toNat ≤ 0x7a ∨ 0x41 ≤ c.toNat ∧ c.toNat ≤ 0x5a := by
    simpa [isLetter, Char.le_def, UInt32.le_iff_toNat_le] using letter
  omega

/-- Whether characters are one of some names of three letters, in either case of letters. -/
structure Named (names : List String) (word : List Char) (i : Nat) : Prop where
  length : word.length = 3
  name : names[i]? = some (String.ofList (word.map Text.lowerAsciiChar))

/-- Whether names start with a letter and come once only. -/
structure AreNames (names : List String) : Prop where
  letter : ∀ name ∈ names, name.toList.head?.all isLetter = true
  nodup : names.Nodup

theorem areNames_weekdayNames : AreNames weekdayNames := ⟨by decide, by decide⟩

theorem areNames_monthNames : AreNames monthNames := ⟨by decide, by decide⟩

theorem sound_scanName (names : List String) : Sound (Named names) (scanName names) := by
  intro cs i rest read
  match cs, read with
  | a :: b :: c :: cs, read =>
    obtain ⟨j, found, same⟩ := Option.map_eq_some_iff.1 read
    obtain ⟨rfl, rfl⟩ := Prod.mk.inj same
    obtain ⟨within, name, -⟩ := List.findIdx?_eq_some_iff_getElem.1 found
    refine ⟨[a, b, c], rfl, rfl, ?_⟩
    rw [List.getElem?_eq_getElem within, beq_iff_eq.1 name]

theorem complete_scanName {names : List String} (ok : AreNames names) :
    Complete (Named names) (fun _ => True) (scanName names) := by
  rintro word i rest ⟨length, name⟩ -
  obtain ⟨a, b, c, rfl⟩ := List.length_eq_three.1 length
  obtain ⟨within, name⟩ := List.getElem?_eq_some_iff.1 name
  have found : names.findIdx? (· == String.ofList ([a, b, c].map Text.lowerAsciiChar)) =
      some i := by
    refine List.findIdx?_eq_some_iff_getElem.2 ⟨within, beq_iff_eq.2 name, fun j before => ?_⟩
    rw [← name, beq_iff_eq, ok.nodup.getElem_inj_iff]
    exact before.ne
  show (names.findIdx? _).map _ = _
  rw [found]
  rfl

/-- A name starts with a letter. -/
theorem Named.exists_letter {names : List String} {i : Nat} (ok : AreNames names)
    (named : Named names word i) : ∃ c cs, word = c :: cs ∧ isLetter c = true := by
  obtain ⟨length, name⟩ := named
  obtain ⟨a, b, c, rfl⟩ := List.length_eq_three.1 length
  refine ⟨a, [b, c], rfl, ?_⟩
  have letter := ok.letter _ (List.mem_of_getElem? name)
  rw [String.toList_ofList] at letter
  change isLetter (Text.lowerAsciiChar a) = true at letter
  rw [Text.lowerAsciiChar] at letter
  split at letter
  · next capital =>
    rw [isLetter, capital, Bool.or_true]
  · exact letter

theorem Named.solid {names : List String} {i : Nat} (ok : AreNames names)
    (named : Named names word i) : Solid word := by
  obtain ⟨c, cs, rfl, letter⟩ := named.exists_letter ok
  exact ⟨c, cs, rfl, isBlank_eq_false_of_isLetter letter⟩

/-! ## Days of the week -/

/-- What stands before a date: a day of the week with a comma and blanks, or nothing. -/
inductive WeekdayWord : List Char → Option Nat → Prop where
  | left : WeekdayWord [] none
  | given {name gap : List Char} {i : Nat} (named : Named weekdayNames name i)
      (blanks : Blanks gap) : WeekdayWord (name ++ ',' :: gap) (some i)

theorem exists_weekdayWord {weekday? : Option Nat} (start : skipBlanks cs = cs)
    (read : scanWeekdayIfAny cs = some (weekday?, rest)) :
    ∃ word, cs = word ++ skipBlanks rest ∧ WeekdayWord word weekday? := by
  rw [scanWeekdayIfAny] at read
  split at read
  · next i after named =>
    obtain ⟨name, split, named⟩ := sound_scanName weekdayNames cs i after named
    obtain ⟨tail, comma, same⟩ := Option.map_eq_some_iff.1 read
    obtain ⟨rfl, rfl⟩ := Prod.mk.inj same
    obtain ⟨gap, more, blanks⟩ := exists_gap tail
    refine ⟨name ++ ',' :: gap, ?_, .given named blanks⟩
    rw [split, eq_cons_of_scanChar comma, List.append_assoc, List.cons_append, ← more]
  · obtain ⟨rfl, rfl⟩ := Prod.mk.inj (Option.some.inj read)
    exact ⟨[], start.symm, .left⟩

theorem WeekdayWord.solid_append {weekday? : Option Nat} (said : WeekdayWord word weekday?)
    (solid : Solid rest) : Solid (word ++ rest) := by
  cases said with
  | left => exact solid
  | given named => exact ((named.solid areNames_weekdayNames).append _).append _

/-- The digits of a day are no name. -/
theorem exists_scanWeekdayIfAny {weekday? : Option Nat} {least most n : Nat} {digits : List Char}
    (said : WeekdayWord word weekday?) (numeral : Numeral least most digits n) (some : 0 < least)
    (rest : List Char) :
    ∃ after, scanWeekdayIfAny (word ++ (digits ++ rest)) = .some (weekday?, after) ∧
      skipBlanks after = digits ++ rest := by
  have solid : Solid (digits ++ rest) := (numeral.solid some).append rest
  cases said with
  | left =>
    refine ⟨digits ++ rest, ?_, skipBlanks_of_solid solid⟩
    have unnamed : scanName weekdayNames (digits ++ rest) = none := by
      refine Option.eq_none_iff_forall_ne_some.2 ?_
      rintro ⟨i, after⟩ read
      obtain ⟨name, split, named⟩ := sound_scanName _ _ _ _ read
      obtain ⟨c, cs, rfl, letter⟩ := named.exists_letter areNames_weekdayNames
      obtain ⟨d, ds, rfl, digit⟩ := numeral.exists_digit some
      obtain ⟨rfl, -⟩ := List.cons.inj split
      rw [isLetter_eq_false_of_isDigit digit] at letter
      cases letter
    rw [List.nil_append, scanWeekdayIfAny, unnamed]
  | @given name gap i named blanks =>
    refine ⟨gap ++ (digits ++ rest), ?_, skipBlanks_gap blanks solid⟩
    have read := complete_scanName areNames_weekdayNames name i (',' :: (gap ++ (digits ++ rest)))
      named trivial
    rw [List.append_assoc, List.cons_append, scanWeekdayIfAny, read]
    rfl

/-! ## Seconds -/

/-- The seconds of a time after a colon, or nothing for none. -/
inductive SecondWord : List Char → Nat → Prop where
  | left : SecondWord [] 0
  | given {gap digits : List Char} {n : Nat} (blanks : Blanks gap)
      (numeral : Numeral 2 2 digits n) : SecondWord (gap ++ ':' :: digits) n

theorem sound_scanSecondIfAny : Sound SecondWord scanSecondIfAny := by
  intro cs n rest read
  rw [scanSecondIfAny] at read
  split at read
  · next after colon =>
    obtain ⟨gap, split, blanks⟩ := exists_gap cs
    obtain ⟨digits, rfl, numeral⟩ := sound_scanNumber 2 2 after n rest read
    refine ⟨gap ++ ':' :: digits, ?_, .given blanks numeral⟩
    rw [List.append_assoc, List.cons_append, ← eq_cons_of_scanChar colon, ← split]
  · obtain ⟨rfl, rfl⟩ := Prod.mk.inj (Option.some.inj read)
    exact ⟨[], rfl, .left⟩

theorem complete_scanSecondIfAny :
    Complete SecondWord (fun rest => scanChar ':' (skipBlanks rest) = none) scanSecondIfAny := by
  intro word n rest said none
  cases said with
  | left => rw [List.nil_append, scanSecondIfAny, none]
  | @given gap digits n blanks numeral =>
    have solid : Solid (':' :: (digits ++ rest)) := ⟨':', _, rfl, by decide⟩
    rw [List.append_assoc, List.cons_append, scanSecondIfAny, skipBlanks_gap blanks solid,
      scanChar_self]
    exact complete_scanNumber_self 2 digits n rest numeral trivial

/-! ## Zones -/

/-- Whether no letter comes next. -/
def NoLetter (rest : List Char) : Prop := ∀ c ∈ rest.head?, isLetter c = false

/-- Which zones there are, as hours and minutes or by name, with their seconds east of Greenwich. -/
inductive ZoneWord : List Char → Int → Prop where
  | offset {hours minutes : List Char} {h m : Nat} (west : Bool) (hoursSaid : Numeral 2 2 hours h)
      (minutesSaid : Numeral 2 2 minutes m) (less : m ≤ 59) :
      ZoneWord ((if west then '-' else '+') :: (hours ++ minutes))
        (if west then -(h * 3600 + m * 60) else h * 3600 + m * 60)
  | named {name : List Char} {offset : Int} (letters : ∀ c ∈ name, isLetter c = true)
      (some : name ≠ []) (known : namedZone? name = .some offset) : ZoneWord name offset

theorem ZoneWord.solid {offset : Int} (said : ZoneWord word offset) : Solid word := by
  cases said with
  | offset west => exact ⟨_, _, rfl, by cases west <;> decide⟩
  | named letters some =>
    obtain ⟨c, cs, rfl⟩ := List.exists_cons_of_ne_nil some
    exact ⟨c, cs, rfl, isBlank_eq_false_of_isLetter (letters c List.mem_cons_self)⟩

/-- A zone is a number of minutes away from Greenwich. -/
theorem ZoneWord.minutes {offset : Int} (said : ZoneWord word offset) : offset % 60 = 0 := by
  cases said with
  | offset west => cases west <;> simp <;> omega
  | named letters some known =>
    rw [namedZone?] at known
    split at known
    · next hours _ =>
      obtain rfl := Option.some.inj known
      omega
    · split at known
      · split at known
        · cases known
        · obtain rfl := Option.some.inj known
          rfl
      · cases known

/-- A zone does not start with a colon, as seconds do. -/
theorem ZoneWord.scanChar_eq_none {offset : Int} (said : ZoneWord word offset)
    (rest : List Char) : scanChar ':' (word ++ rest) = none := by
  cases said with
  | offset west => cases west <;> rfl
  | named letters some =>
    obtain ⟨c, cs, rfl⟩ := List.exists_cons_of_ne_nil some
    refine if_neg ?_
    rintro rfl
    exact absurd (letters ':' List.mem_cons_self) (by decide)

theorem sound_scanOffset : Sound ZoneWord (scanOffset false false) := by
  intro cs offset rest read
  obtain ⟨⟨west, after⟩, sign, read⟩ := Option.bind_eq_some_iff.1 read
  obtain ⟨⟨h, later⟩, hoursRead, read⟩ := Option.bind_eq_some_iff.1 read
  obtain ⟨⟨m, last⟩, minutesRead, read⟩ := Option.bind_eq_some_iff.1 read
  obtain ⟨less, read⟩ := Option.ite_none_left_eq_some.1 read
  obtain ⟨rfl, rfl⟩ := Prod.mk.inj (Option.some.inj read)
  obtain ⟨hours, rfl, hoursSaid⟩ := sound_scanNumber _ _ _ _ _ hoursRead
  obtain ⟨minutes, rfl, minutesSaid⟩ := sound_scanNumber _ _ _ _ _ minutesRead
  have first : cs = (if west then '-' else '+') :: (hours ++ (minutes ++ last)) := by
    revert sign
    rw [scanSign.eq_def]
    split
    · rintro ⟨⟩
      rfl
    · rintro ⟨⟩
      rfl
    · rw [Bool.and_false, if_neg (by decide)]
      rintro ⟨⟩
    · rintro ⟨⟩
  refine ⟨_, ?_, .offset west hoursSaid minutesSaid (not_lt.1 less)⟩
  rw [first, List.cons_append, List.append_assoc]

theorem complete_scanOffset {hours minutes : List Char} {h m : Nat} (west : Bool)
    (hoursSaid : Numeral 2 2 hours h) (minutesSaid : Numeral 2 2 minutes m) (less : m ≤ 59)
    (rest : List Char) :
    scanOffset false false ((if west then '-' else '+') :: (hours ++ minutes) ++ rest) =
      some (if west then -((h : Int) * 3600 + m * 60) else (h : Int) * 3600 + m * 60, rest) := by
  have sign : scanSign false ((if west then '-' else '+') :: (hours ++ minutes) ++ rest) =
      some (west, hours ++ (minutes ++ rest)) := by
    rw [← List.append_assoc]
    cases west <;> rfl
  rw [scanOffset, sign, bind_of_some]
  dsimp only
  rw [complete_scanNumber_self 2 _ _ _ hoursSaid trivial, bind_of_some]
  dsimp only
  rw [if_neg (by decide), bind_of_some, complete_scanNumber_self 2 _ _ _ minutesSaid trivial,
    bind_of_some]
  dsimp only
  rw [if_neg (by omega)]

theorem sound_scanMailZone : Sound ZoneWord scanMailZone := by
  intro cs offset rest read
  rw [scanMailZone] at read
  split at read
  · exact sound_scanOffset cs offset rest read
  · next some =>
    obtain ⟨_, known, same⟩ := Option.map_eq_some_iff.1 read
    obtain ⟨rfl, rfl⟩ := Prod.mk.inj same
    refine ⟨cs.takeWhile isLetter, List.takeWhile_append_dropWhile.symm, ?_⟩
    exact .named (fun _ => List.mem_takeWhile_imp) (fun none => some (by rw [none]; rfl)) known

theorem complete_scanMailZone : Complete ZoneWord NoLetter scanMailZone := by
  intro word offset rest said ends
  cases said with
  | @offset hours minutes h m west hoursSaid minutesSaid less =>
    have none : (((if west then '-' else '+') :: (hours ++ minutes) ++ rest).takeWhile
        isLetter).isEmpty = true := by cases west <;> rfl
    rw [scanMailZone, if_pos none]
    exact complete_scanOffset west hoursSaid minutesSaid less rest
  | named letters some known =>
    have stop : rest.takeWhile isLetter = [] ∧ rest.dropWhile isLetter = rest := by
      cases rest with
      | nil => exact ⟨rfl, rfl⟩
      | cons c rest =>
        have other : ¬isLetter c = true := by simp [ends c rfl]
        exact ⟨List.takeWhile_cons_of_neg other, List.dropWhile_cons_of_neg other⟩
    have name : (word ++ rest).takeWhile isLetter = word := by
      rw [List.takeWhile_append_of_pos letters, stop.1, List.append_nil]
    rw [scanMailZone, name, if_neg (by simpa using some), known,
      List.dropWhile_append_of_pos letters, stop.2]
    rfl

/-! ## Comments -/

/-- What may stand between the parentheses of a comment: characters other than a parenthesis or a
backslash, any character after a backslash, and comments. -/
inductive CommentBody : List Char → Prop where
  | nil : CommentBody []
  | plain {c : Char} {rest : List Char} (ordinary : c ∉ ['(', ')', '\\'])
      (body : CommentBody rest) : CommentBody (c :: rest)
  | quoted {c : Char} {rest : List Char} (body : CommentBody rest) :
      CommentBody ('\\' :: c :: rest)
  | nested {inner rest : List Char} (comment : CommentBody inner) (body : CommentBody rest) :
      CommentBody ('(' :: (inner ++ ')' :: rest))

/-- Comments, with blanks in front of each. -/
inductive Comments : List Char → Prop where
  | nil : Comments []
  | cons {gap body rest : List Char} (blanks : Blanks gap) (comment : CommentBody body)
      (others : Comments rest) : Comments (gap ++ '(' :: (body ++ ')' :: rest))

/-- What closes a number of comments and the one around them, but for the last parenthesis. -/
def Closing : Nat → List Char → Prop
  | 0, cs => CommentBody cs
  | depth + 1, cs => ∃ body rest, cs = body ++ ')' :: rest ∧ CommentBody body ∧ Closing depth rest

/-- More may stand in the innermost comment. -/
theorem Closing.append (front : List Char)
    (more : ∀ body, CommentBody body → CommentBody (front ++ body)) {depth : Nat}
    (closing : Closing depth cs) : Closing depth (front ++ cs) := by
  cases depth with
  | zero => exact more cs closing
  | succ depth =>
    obtain ⟨body, rest, rfl, comment, others⟩ := closing
    exact ⟨front ++ body, rest, (List.append_assoc _ _ _).symm, more body comment, others⟩

theorem exists_closing {depth : Nat} (read : scanCommentBody depth cs = some rest) :
    ∃ front, cs = front ++ ')' :: rest ∧ Closing depth front := by
  fun_induction scanCommentBody depth cs with
  | case1 => cases read
  | case2 after =>
    obtain rfl := Option.some.inj read
    exact ⟨[], rfl, .nil⟩
  | case3 after depth ih =>
    obtain ⟨front, rfl, closing⟩ := ih read
    exact ⟨')' :: front, rfl, [], front, rfl, .nil, closing⟩
  | case4 depth after ih =>
    obtain ⟨front, rfl, body, tail, rfl, comment, closing⟩ := ih read
    refine ⟨'(' :: (body ++ ')' :: tail), rfl, ?_⟩
    have more := closing.append ('(' :: (body ++ [')'])) fun rest others => by
      simpa using CommentBody.nested comment others
    simpa using more
  | case5 => cases read
  | case6 depth c after ih =>
    obtain ⟨front, rfl, closing⟩ := ih read
    exact ⟨'\\' :: c :: front, rfl, closing.append ['\\', c] fun _ => .quoted⟩
  | case7 depth c after last closes opens alone quotes ih =>
    have ordinary : c ∉ ['(', ')', '\\'] := by
      intro special
      simp only [List.mem_cons, List.not_mem_nil, or_false] at special
      rcases special with rfl | rfl | rfl
      · exact opens rfl
      · cases depth with
        | zero => exact last rfl rfl
        | succ depth => exact closes depth rfl rfl
      · cases after with
        | nil => exact alone rfl rfl
        | cons d after => exact quotes d after rfl rfl
    obtain ⟨front, rfl, closing⟩ := ih read
    exact ⟨c :: front, rfl, closing.append [c] fun _ => .plain ordinary⟩

theorem scanCommentBody_append {body : List Char} (comment : CommentBody body) (depth : Nat)
    (rest : List Char) :
    scanCommentBody depth (body ++ rest) = scanCommentBody depth rest := by
  induction comment generalizing depth rest with
  | nil => rfl
  | @plain c body ordinary _ ih =>
    rw [← ih depth rest, List.cons_append]
    simp only [List.mem_cons, List.not_mem_nil, or_false, not_or] at ordinary
    obtain ⟨opens, closes, quotes⟩ := ordinary
    rw [scanCommentBody.eq_def]
    split <;> simp_all
  | quoted _ ih => exact ih depth rest
  | @nested inner body _ _ inside behind =>
    have step := inside (depth + 1) (')' :: (body ++ rest))
    rw [List.cons_append, List.append_assoc, List.cons_append]
    exact step.trans (behind depth rest)

/-- Comments are skipped to the end. -/
theorem skipComments_of_comments (comments : Comments cs) {fuel : Nat}
    (enough : cs.length ≤ fuel) : skipComments fuel cs = [] := by
  induction comments generalizing fuel with
  | nil => cases fuel <;> rfl
  | @cons gap body rest blanks comment others ih =>
    simp only [List.length_append, List.length_cons] at enough
    obtain ⟨fuel, rfl⟩ := Nat.exists_eq_add_of_lt (show 0 < fuel by omega)
    have solid : Solid ('(' :: (body ++ ')' :: rest)) := ⟨'(', _, rfl, by decide⟩
    have read : scanCommentBody 0 (body ++ ')' :: rest) = some rest :=
      scanCommentBody_append comment 0 _
    rw [Nat.zero_add, skipComments, skipBlanks_gap blanks solid]
    simp only [read]
    exact ih (by omega)

/-- What is skipped to the end is comments. -/
theorem comments_of_skipComments {fuel : Nat} (skipped : skipComments fuel cs = []) :
    Comments cs := by
  induction fuel generalizing cs with
  | zero =>
    obtain rfl : cs = [] := skipped
    exact .nil
  | succ fuel ih =>
    rw [skipComments] at skipped
    split at skipped
    · next after start =>
      obtain ⟨gap, split, blanks⟩ := exists_gap cs
      split at skipped
      · next rest read =>
        obtain ⟨body, rfl, comment⟩ := exists_closing read
        rw [split, start]
        exact .cons blanks comment (ih skipped)
      · subst skipped
        exact .nil
    · subst skipped
      exact .nil

/-- Comments start with no letter. -/
theorem Comments.noLetter (comments : Comments cs) : NoLetter cs := by
  rintro c first
  cases comments with
  | nil => cases first
  | @cons gap body rest blanks =>
    cases gap with
    | nil =>
      obtain rfl := Option.some.inj first
      decide
    | cons d gap =>
      obtain rfl := Option.some.inj first
      refine Bool.eq_false_iff.2 fun letter => ?_
      have blank := blanks d List.mem_cons_self
      rw [isBlank_eq_false_of_isLetter letter] at blank
      cases blank

end ConferenceSync.Time
