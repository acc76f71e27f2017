import ConferenceSync.Time.Civil
import ConferenceSync.Time.Scan

/-!
# Dates in HTTP headers

A server gives the time of its data as a date such as `Sun, 06 Nov 1994 08:49:37 GMT`. Dates are
read leniently, as in mail headers, and written in this one form.

## Main definitions

* `formatHttpDate` — the written form of an instant
* `httpInstant?` — the instant of a lenient date
* `normalizeHttpDate?` — a lenient date in its written form
-/

namespace ConferenceSync.Time

/-! ### Writing -/

/-- A number with at least `width` digits. -/
def padded (width n : Nat) : String :=
  let digits := Nat.toDigits 10 n
  String.ofList (List.replicate (width - digits.length) '0' ++ digits)

/-- A year with at least four digits; one outside 0 to 9999 has a sign in front. -/
def formatYear (year : Int) : String :=
  if 0 ≤ year && year ≤ 9999 then padded 4 year.toNat
  else (if year < 0 then "-" else "+") ++ padded 4 year.natAbs

/-- The written names of the days of the week, from Sunday on. -/
def weekdayTexts : List String := ["Sun", "Mon", "Tue", "Wed", "Thu", "Fri", "Sat"]

/-- The written names of the months, from January on. -/
def monthTexts : List String :=
  ["Jan", "Feb", "Mar", "Apr", "May", "Jun", "Jul", "Aug", "Sep", "Oct", "Nov", "Dec"]

/-- The written form of an instant. A leap second is second 60. -/
def formatHttpDate (t : Instant) : String :=
  let days := t.seconds / 86400
  let date := Date.ofDays days
  let clock := (t.seconds % 86400).toNat
  let second := clock % 60 + t.nanoseconds / 1000000000
  weekdayTexts.getD (weekdayOfDays days) "" ++ ", " ++ padded 2 date.day ++ " " ++
    monthTexts.getD (date.month - 1) "" ++ " " ++ formatYear date.year ++ " " ++
    padded 2 (clock / 3600) ++ ":" ++ padded 2 (clock / 60 % 60) ++ ":" ++ padded 2 second ++ " GMT"

/-! ### Reading -/

/-- The zones that are known by name, with their hours east of Greenwich. -/
def namedZones : List (String × Int) :=
  [("gmt", 0), ("ut", 0), ("z", 0), ("edt", -4), ("est", -5), ("cdt", -5), ("cst", -6),
    ("mdt", -6), ("mst", -7), ("pdt", -7), ("pst", -8)]

/-- Whether a character is a letter `a` to `z` of either case. -/
def isLetter (c : Char) : Bool :=
  ('a' ≤ c && c ≤ 'z') || ('A' ≤ c && c ≤ 'Z')

/-- The seconds east of Greenwich of a zone by name. A single letter other than `j` says nothing
about the zone and counts as Greenwich. -/
def namedZone? (name : List Char) : Option Int :=
  let word := name.map Text.lowerAsciiChar
  match namedZones.lookup (String.ofList word) with
  | some hours => some (hours * 3600)
  | none =>
    match word with
    | [c] => if c = 'j' then none else some 0
    | _ => none

/-- Reads the zone of a date, by name or as `+hhmm`. -/
def scanMailZone (cs : List Char) : Scan Int :=
  let name := cs.takeWhile isLetter
  if name.isEmpty then scanOffset false false cs
  else (namedZone? name).map fun offset => (offset, cs.dropWhile isLetter)

/-- Reads the rest of a comment inside `depth + 1` parentheses. -/
def scanCommentBody : Nat → List Char → Option (List Char)
  | _, [] => none
  | 0, ')' :: rest => some rest
  | depth + 1, ')' :: rest => scanCommentBody depth rest
  | depth, '(' :: rest => scanCommentBody (depth + 1) rest
  | _, ['\\'] => none
  | depth, '\\' :: _ :: rest => scanCommentBody depth rest
  | depth, _ :: rest => scanCommentBody depth rest

/-- Reads comments in parentheses, with blanks in front of each, as long as there are any. -/
def skipComments : Nat → List Char → List Char
  | 0, cs => cs
  | fuel + 1, cs =>
    match skipBlanks cs with
    | '(' :: rest =>
      match scanCommentBody 0 rest with
      | some rest => skipComments fuel rest
      | none => cs
    | _ => cs

/-- A year by the number of its digits: two digits mean the years 1950 to 2049, three digits count
from 1900. -/
def expandYear (digits year : Nat) : Nat :=
  if digits = 2 then if year ≤ 49 then year + 2000 else year + 1900
  else if digits = 3 then year + 1900
  else year

/-- Reads the seconds of a time if there are any. -/
def scanSecondIfAny (cs : List Char) : Scan Nat :=
  match scanChar ':' (skipBlanks cs) with
  | some rest => scanNumber 2 2 rest
  | none => some (0, cs)

/-- Reads a day of the week with its comma if there is one; without the comma the date is
refused. -/
def scanWeekdayIfAny (cs : List Char) : Scan (Option Nat) :=
  match scanName weekdayNames cs with
  | some (weekday, rest) => (scanChar ',' rest).map fun rest => (some weekday, rest)
  | none => some (none, cs)

/-- The instant of a lenient date. A day of the week has to be the right one. -/
def httpInstant? (cs : List Char) : Option Instant := do
  let (weekday, rest) ← scanWeekdayIfAny (skipBlanks cs)
  let (day, rest) ← scanNumber 1 2 (skipBlanks rest)
  let rest ← scanBlanks rest
  let (month, rest) ← scanName monthNames rest
  let rest ← scanBlanks rest
  -- A year has as many digits as there are, and their number decides what they mean.
  let (year, after) ← scanNumber 2 rest.length rest
  let year := expandYear (rest.length - after.length) year
  let rest ← scanBlanks after
  let (hour, rest) ← scanNumber 2 2 rest
  let rest ← scanChar ':' (skipBlanks rest)
  let (minute, rest) ← scanNumber 2 2 (skipBlanks rest)
  let (second, rest) ← scanSecondIfAny rest
  let rest ← scanBlanks rest
  let (offset, rest) ← scanMailZone rest
  if !(skipComments rest.length rest).isEmpty || 86400 ≤ offset.natAbs then none
  else
    let date ← Date.of? year (month + 1) day
    let time ← TimeOfDay.of? hour minute second 0
    -- The day of the week is that of the local date, not of the instant.
    if weekday.all (· == weekdayOfDays date.toDays) then Instant.ofLocal? date time offset
    else none

/-- A lenient date in its written form; blanks at its ends do not count. -/
def normalizeHttpDate? (s : String) : Option String :=
  (httpInstant? (Text.trimList s.toList)).map formatHttpDate

end ConferenceSync.Time
