import ConferenceSync.Text.Blank
import ConferenceSync.Text.Hexadecimal

/-!
# Colors

A color is a signed 32-bit number whose octets are alpha, red, green and blue.

## Main definitions

* `colorOfText` — the color that a text such as `#3f51b5` stands for
-/

namespace ConferenceSync.Agenda

/-- The number that a non-empty run of hexadecimal digits stands for. -/
def hexNumber? (cs : List Char) : Option Nat :=
  if cs.isEmpty then none
  else cs.foldlM (fun n c => (Text.hexValue? c).map (16 * n + ·)) 0

/-- The number that hexadecimal digits stand for; a sign `+` may precede them. -/
def signedHexNumber? : List Char → Option Nat
  | '+' :: cs => hexNumber? cs
  | cs => hexNumber? cs

/-- The color that a text stands for, after any number of `#`. Six characters leave alpha at its
most, eight give it too, and whatever is no color is 0. -/
def colorOfText (s : String) : Int :=
  let cs := (Text.trimList s.toList).dropWhile (· == '#')
  match signedHexNumber? cs, cs.length with
  | some v, 6 => (0xff000000 + (v : Int)).bmod 0x100000000
  | some v, 8 => (v : Int).bmod 0x100000000
  | _, _ => 0

end ConferenceSync.Agenda
