import ConferenceSync.Json.Value
import ConferenceSync.Time.Civil
import ConferenceSync.Time.Scan

/-!
# Timestamps of conference data

A timestamp is a number of milliseconds from 1970-01-01T00:00:00Z. Conference data gives it as a
whole number, or as a text in one of three forms, tried in this order: a date and time with a
zone offset, a date and time without one, which is taken to be in UTC, and the decimal digits of
a whole number. Whatever has none of these forms stands for 0.

## Main definitions

* `zonedInstant?` — a date and time with a zone offset
* `localInstant?` — a date and time without one
* `timestampOfText`, `timestampOfJson` — the milliseconds of a text, of a value
-/

namespace ConferenceSync.Time

/-- Reads the fraction of a second after its point as nanoseconds; digits after the ninth are
passed over. -/
def scanNanoseconds (cs : List Char) : Scan Nat :=
  (scanNumber 1 9 cs).map fun (n, rest) =>
    (n * Nat.pow 10 (9 - (cs.length - rest.length)), rest.dropWhile Text.isDigit)

/-- Reads the offset that ends a timestamp: `Z`, or hours and minutes below a day. -/
def scanZone : List Char → Scan Int
  | 'Z' :: rest => some (0, rest)
  | 'z' :: rest => some (0, rest)
  | cs => (scanOffset true true cs).filter fun (offset, _) => offset.natAbs < 86400

/-- The instant of a text such as `2014-06-25T16:00:00.5+02:00`. The year has four digits, and a
blank may stand for the `T`. -/
def zonedInstant? (cs : List Char) : Option Instant := do
  let (year, rest) ← scanNumber 4 4 cs
  let rest ← scanChar '-' rest
  let (month, rest) ← scanNumber 2 2 rest
  let rest ← scanChar '-' rest
  let (day, rest) ← scanNumber 2 2 rest
  let rest ← match rest with
    | c :: rest => if c = 'T' || c = 't' || c = ' ' then some rest else none
    | [] => none
  let (hour, rest) ← scanNumber 2 2 rest
  let rest ← scanChar ':' rest
  let (minute, rest) ← scanNumber 2 2 rest
  let rest ← scanChar ':' rest
  let (second, rest) ← scanNumber 2 2 rest
  -- A point has to be followed by a digit at least.
  let (nanosecond, rest) ← match rest with
    | '.' :: rest => scanNanoseconds rest
    | _ => some (0, rest)
  let (offset, rest) ← scanZone rest
  if !rest.isEmpty then none
  else
    let date ← Date.of? year month day
    let time ← TimeOfDay.of? hour minute second nanosecond
    Instant.ofLocal? date time offset

/-- Reads a year: after a sign any number of digits, without one at most four. -/
def scanYear (cs : List Char) : Scan Int :=
  match skipBlanks cs with
  | '-' :: rest => (scanNumber 1 rest.length rest).map fun (n, rest) => (-n, rest)
  | '+' :: rest => (scanNumber 1 rest.length rest).map fun (n, rest) => (n, rest)
  | cs => (scanNumber 1 4 cs).map fun (n, rest) => (n, rest)

/-- Reads a field of one or two digits, with blanks in front if any. -/
def scanField (cs : List Char) : Scan Nat :=
  scanNumber 1 2 (skipBlanks cs)

/-- The instant of a text such as `2014-06-25T16:00:00`, read as UTC. Each field may have blanks
in front. -/
def localInstant? (cs : List Char) : Option Instant := do
  let (year, rest) ← scanYear cs
  let rest ← scanChar '-' rest
  let (month, rest) ← scanField rest
  let rest ← scanChar '-' rest
  let (day, rest) ← scanField rest
  let rest ← scanChar 'T' rest
  let (hour, rest) ← scanField rest
  let rest ← scanChar ':' rest
  let (minute, rest) ← scanField rest
  let rest ← scanChar ':' rest
  let (second, rest) ← scanField rest
  if !rest.isEmpty then none
  else
    let date ← Date.of? year month day
    let time ← TimeOfDay.of? hour minute second 0
    Instant.ofLocal? date time 0

/-- The milliseconds that a text without blanks at its ends stands for. -/
def timestampOfChars (cs : List Char) : Int :=
  match zonedInstant? cs with
  | some t => t.millis
  | none =>
    match localInstant? cs with
    | some t => t.millis
    -- No text has two of the forms, so the order in which they are tried does not matter.
    | none => (Text.int64Of? cs).getD 0

/-- The milliseconds that a text stands for; blanks at its ends do not count. -/
def timestampOfText (s : String) : Int :=
  timestampOfChars (Text.trimList s.toList)

/-- The milliseconds that a value stands for. -/
def timestampOfJson : Json → Int
  | .number (.whole n) => if Text.FitsInt64 n then n else 0
  | .string s => timestampOfText s
  | _ => 0

end ConferenceSync.Time
