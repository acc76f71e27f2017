import ConferenceSync.Text.Blank
import ConferenceSync.Text.Case
import ConferenceSync.Text.Digits

/-!
# The words of dates and times

Each function reads one word from the front of a list of characters and gives the characters
after it.

## Main definitions

* `scanNumber` — digits, between a least and a greatest number of them
* `scanChar`, `scanBlanks` — one given character, at least one blank
* `scanName` — one of a list of three-letter names, in either case of letters
* `scanOffset` — a zone offset in hours and minutes
-/

namespace ConferenceSync.Time

/-- The result of reading a word: what it means, and the characters after it. -/
abbrev Scan (α : Type) := Option (α × List Char)

/-- Reads digits, at least `least` and at most `most` of them. -/
def scanNumber (least most : Nat) (cs : List Char) : Scan Nat :=
  let digits := (cs.take most).takeWhile Text.isDigit
  if digits.length < least then none
  else some (Text.naturalFrom 0 digits, cs.drop digits.length)

/-- Reads a given character. -/
def scanChar (wanted : Char) : List Char → Option (List Char)
  | c :: rest => if c = wanted then some rest else none
  | [] => none

/-- The characters after the blanks at the front. -/
def skipBlanks (cs : List Char) : List Char :=
  cs.dropWhile Text.isBlank

/-- Reads at least one blank. -/
def scanBlanks : List Char → Option (List Char)
  | c :: rest => if Text.isBlank c then some (skipBlanks rest) else none
  | [] => none

/-- Reads a name of three letters in either case; its meaning is its place in the list. -/
def scanName (names : List String) : List Char → Scan Nat
  | a :: b :: c :: rest =>
    let word := String.ofList ([a, b, c].map Text.lowerAsciiChar)
    (names.findIdx? (· == word)).map fun i => (i, rest)
  | _ => none

/-- The names of the days of the week, from Sunday on. -/
def weekdayNames : List String := ["sun", "mon", "tue", "wed", "thu", "fri", "sat"]

/-- The names of the months, from January on. -/
def monthNames : List String :=
  ["jan", "feb", "mar", "apr", "may", "jun", "jul", "aug", "sep", "oct", "nov", "dec"]

/-- Reads the sign of an offset: `+`, `-`, or, where it is admitted, the minus sign proper. -/
def scanSign (properMinus : Bool) : List Char → Scan Bool
  | '+' :: rest => some (false, rest)
  | '-' :: rest => some (true, rest)
  | c :: rest => if c = '−' && properMinus then some (true, rest) else none
  | [] => none

/-- Reads a zone offset `+hh:mm` or, without `colon`, `+hhmm`, as seconds east of Greenwich. -/
def scanOffset (colon properMinus : Bool) (cs : List Char) : Option (Int × List Char) := do
  let (west, rest) ← scanSign properMinus cs
  let (hours, rest) ← scanNumber 2 2 rest
  let rest ← if colon then scanChar ':' rest else some rest
  let (minutes, rest) ← scanNumber 2 2 rest
  if 59 < minutes then none
  else
    let seconds : Int := hours * 3600 + minutes * 60
    some (if west then -seconds else seconds, rest)

end ConferenceSync.Time
