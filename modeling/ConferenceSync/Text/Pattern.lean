import ConferenceSync.Text.Case
import ConferenceSync.Text.Split

/-!
# Text patterns

In a pattern a percent sign stands for any characters and an underscore for any one character;
every other character stands for itself, a letter of the ASCII range also for the same letter in
the other case. A pattern, and a text that is compared with one, ends before its first NUL.

The percent signs divide a pattern into pieces. A text fits if the first piece fits at its start,
the last one at its end, and the others in their order in between. It never hurts to take the first
place where a piece fits, so nothing is tried twice.

## Main definitions

* `matchesPattern` — whether characters fit a pattern
* `occursLike` — whether a pattern fits somewhere in a text
-/

namespace ConferenceSync.Text

/-- A character as it is compared. The two last code points of the basic plane count as the
replacement character. -/
def comparedChar (c : Char) : Char :=
  if c.toNat = 0xfffe || c.toNat = 0xffff then '\ufffd' else lowerAsciiChar c

/-- The characters after a piece at the front. -/
def afterPiece? : List Char → List Char → Option (List Char)
  | [], cs => some cs
  | _ :: _, [] => none
  | p :: piece, c :: cs =>
    if p = '_' || comparedChar p = comparedChar c then afterPiece? piece cs else none

/-- The characters after the first place where a piece fits. -/
def searchPiece? (piece : List Char) : List Char → Option (List Char)
  | [] => afterPiece? piece []
  | c :: cs =>
    match afterPiece? piece (c :: cs) with
    | some rest => some rest
    | none => searchPiece? piece cs

/-- Whether a piece fits at the end of characters. -/
def endsWithPiece (piece cs : List Char) : Bool :=
  piece.length ≤ cs.length && (afterPiece? piece (cs.drop (cs.length - piece.length))).isSome

/-- Whether characters fit pieces, of which only the last one has to end them. -/
def matchesPieces : List (List Char) → List Char → Bool
  | [], cs => cs.isEmpty
  | [last], cs => endsWithPiece last cs
  | piece :: pieces, cs =>
    match searchPiece? piece cs with
    | some rest => matchesPieces pieces rest
    | none => false

/-- Whether characters fit a pattern. -/
def matchesPattern (pattern cs : List Char) : Bool :=
  match splitAt '%' pattern with
  | [] => cs.isEmpty
  | first :: pieces =>
    match afterPiece? first cs with
    | some rest => matchesPieces pieces rest
    | none => false

/-- The characters before the first NUL. -/
def beforeNul (cs : List Char) : List Char :=
  cs.takeWhile (· ≠ '\x00')

/-- Whether a pattern fits somewhere in a text. A NUL in the pattern ends it, and then the text has
to end there too. -/
def occursLike (pattern text : String) : Bool :=
  matchesPattern (beforeNul ('%' :: pattern.toList ++ ['%'])) (beforeNul text.toList)

example : matchesPattern ['%', 'a', '%', '_', 'B'] ['x', 'a', 'y', 'b', 'b'] = true ∧
    matchesPattern ['%', 'a', '%', 'a', 'b'] ['a', 'b', 'c'] = false := by
  decide

end ConferenceSync.Text
