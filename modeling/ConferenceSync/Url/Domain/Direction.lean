import ConferenceSync.Text.Mark
import ConferenceSync.Text.Digits

/-!
# Direction of writing

A label with letters that are written from right to left must look the same whatever stands next
to it. So if one label of a name has such letters or Arabic numbers, every label of it starts with
a letter, ends with a letter or a number of its own direction, and mixes no directions.

## Main definitions

* `Direction.of` — how a character is written
* `keepsDirection` — the rule for a label
* `keepDirections` — the rule for the labels of a name
-/

namespace ConferenceSync.Url.Domain

open ConferenceSync.Text (CodeRanges)

/-- How a character is written. A mark goes by the character before it, above or below which it
stands, and a neutral character by those around it. -/
inductive Direction where
  | leftToRight
  | rightToLeft
  | europeanNumber
  | arabicNumber
  | mark
  | neutral
  deriving DecidableEq, Repr

/-- The letters that are written from right to left, and what is written with them. -/
def rightToLeftRanges : CodeRanges :=
  [(0x5be, 0x5f4), (0x608, 0x608), (0x60b, 0x60b), (0x60d, 0x60d), (0x61b, 0x64a),
   (0x66d, 0x6d5), (0x6e5, 0x6e6), (0x6ee, 0x6ef), (0x6fa, 0x7f5), (0x7fa, 0x8c9),
   (0xfbb2, 0xfbc2), (0xfe73, 0xfe73), (0x10800, 0x1091b), (0x10920, 0x10b35),
   (0x10b40, 0x10d23), (0x10d4a, 0x10d4f), (0x10d6f, 0x10d8f), (0x10e80, 0x10ec7),
   (0x10f00, 0x10ff6), (0x1e800, 0x1ed3d)]

/-- The digits of numbers that are written as in Arabic. -/
def arabicNumberRanges : CodeRanges :=
  [(0x660, 0x669), (0x66b, 0x66c), (0x10d30, 0x10d49), (0x10e60, 0x10e7e)]

/-- The digits beyond ASCII of numbers that are written as in Europe. -/
def europeanNumberRanges : CodeRanges :=
  [(0x6f0, 0x6f9), (0x102e1, 0x102fb)]

/-- The characters beyond ASCII that are written as the characters around them. -/
def neutralRanges : CodeRanges :=
  [(0xa1, 0xd7), (0xf7, 0xf7), (0x2b9, 0x2ba), (0x2c2, 0x2cf), (0x2d2, 0x2ed), (0x2ef, 0x2ff),
   (0x375, 0x375), (0x3f6, 0x3f6), (0x58a, 0x58f), (0x606, 0x607), (0x609, 0x60a),
   (0x60c, 0x60c), (0x60e, 0x60f), (0x66a, 0x66a), (0x6de, 0x6de), (0x6e9, 0x6e9),
   (0x7f6, 0x7f9), (0x9f2, 0x9f3), (0x9fb, 0x9fb), (0xaf1, 0xaf1), (0xbf3, 0xbfa),
   (0xc78, 0xc7e), (0xe3f, 0xe3f), (0xf3a, 0xf3d), (0x1390, 0x1399), (0x1400, 0x1400),
   (0x169b, 0x169c), (0x17db, 0x17db), (0x17f0, 0x180a), (0x1940, 0x1945), (0x19de, 0x19ff),
   (0x200c, 0x214d), (0x218a, 0x2335), (0x237b, 0x2394), (0x2396, 0x26ab), (0x26ad, 0x27ff),
   (0x2900, 0x2bff), (0x2ce5, 0x2cea), (0x2cf9, 0x2cff), (0x2e00, 0x3004), (0x3008, 0x3020),
   (0x3030, 0x3030), (0x3037, 0x3037), (0x303d, 0x303f), (0x30a0, 0x30a0), (0x30fb, 0x30fb),
   (0x31c0, 0x31e5), (0x4dc0, 0x4dff), (0xa490, 0xa4c6), (0xa60d, 0xa60f), (0xa673, 0xa67f),
   (0xa700, 0xa721), (0xa788, 0xa788), (0xa828, 0xa82b), (0xa838, 0xa839), (0xa874, 0xa877),
   (0xab6a, 0xab6b), (0xfbc3, 0xfe46), (0x10101, 0x10101), (0x10140, 0x1018c),
   (0x10190, 0x101a0), (0x1091f, 0x1091f), (0x10b39, 0x10b3f), (0x10d6e, 0x10d6e),
   (0x10ed0, 0x10ed8), (0x11052, 0x11065), (0x11660, 0x1166c), (0x11fd5, 0x11ff1),
   (0x16fe2, 0x16fe2), (0x1cc00, 0x1cef0), (0x1d1e9, 0x1d245), (0x1d300, 0x1d356),
   (0x1e2ff, 0x1e2ff), (0x1eef0, 0x1f12f), (0x1f16d, 0x1f16f), (0x1f1ad, 0x1f1ad),
   (0x1f260, 0x1fbfa)]

/-- The marks without room of their own that take part in the writing as letters do. -/
def letterMarks : List Nat := [0xcbf, 0xcc6, 0x11a07, 0x11a08, 0x11c3f]

/-- How a character is written. -/
def Direction.of (c : Char) : Direction :=
  let n := c.toNat
  if n < 0x80 then
    if c.isAlpha then .leftToRight else if Text.isDigit c then .europeanNumber else .neutral
  -- One mark is written as those without room of their own, though it takes up room.
  else if (Text.isNonspacingMark c && !letterMarks.contains n) || n = 0x1171e then .mark
  else if rightToLeftRanges.contains n then .rightToLeft
  else if arabicNumberRanges.contains n then .arabicNumber
  else if europeanNumberRanges.contains n then .europeanNumber
  else if neutralRanges.contains n then .neutral
  else .leftToRight

/-- Whether the characters of a label that starts from left to right are written so. -/
def runsLeftToRight (label : List Direction) : Bool :=
  [some .leftToRight, some .europeanNumber].contains (label.filter (· ≠ .mark)).getLast? &&
    label.all fun d => d ≠ .rightToLeft && d ≠ .arabicNumber

/-- Whether the characters of a label that starts from right to left are written so. Its numbers
are of one kind. -/
def runsRightToLeft (label : List Direction) : Bool :=
  (label.filter (· ≠ .mark)).getLast? ≠ some .neutral &&
    !label.contains .leftToRight &&
    !(label.contains .europeanNumber && label.contains .arabicNumber)

/-- Whether a label looks the same next to any other. A label without characters does. -/
def keepsDirection (label : List Direction) : Bool :=
  match label.head? with
  | none => true
  | some .leftToRight => runsLeftToRight label
  | some .rightToLeft => runsRightToLeft label
  | some _ => false

/-- Whether the labels of a name keep their direction, as they have to as soon as one is not
written from left to right. -/
def keepDirections (labels : List (List Char)) : Bool :=
  let labels := labels.map (·.map Direction.of)
  let isRight := fun (d : Direction) => d = .rightToLeft || d = .arabicNumber
  !labels.any (·.any isRight) || labels.all keepsDirection

end ConferenceSync.Url.Domain
