/-!
# Punycode

A label of a host name with characters beyond ASCII is written in ASCII: first its ASCII
characters, then, in ascending order of the others, how far to count on to reach the next one. A
count is written in base 36 with the lowest digit first; thresholds that follow the size of the
counts so far mark its last digit.

## Main definitions

* `Punycode.encode` — the ASCII form of a label
* `Punycode.decode?` — the label that an ASCII form stands for
-/

namespace ConferenceSync.Url.Punycode

/-- The letter or figure of a digit below 36. -/
def digit (d : Nat) : Char :=
  if d < 26 then Char.ofNat (0x61 + d) else Char.ofNat (0x30 + (d - 26))

/-- The threshold of the digit at a place, which counts in steps of 36. -/
def threshold (place bias : Nat) : Nat :=
  if place ≤ bias then 1 else if bias + 26 ≤ place then 26 else place - bias

/-- Divides a count until it is small, and counts the places. -/
def shrink (delta places : Nat) : Nat × Nat :=
  if 455 < delta then shrink (delta / 35) (places + 36) else (delta, places)
termination_by delta
decreasing_by exact Nat.div_lt_self (by omega) (by omega)

/-- The bias after a count, with `points` characters written so far. -/
def adapt (delta points : Nat) (first : Bool) : Nat :=
  let delta := if first then delta / 700 else delta / 2
  let (delta, places) := shrink (delta + delta / points) 0
  places + 36 * delta / (delta + 38)

theorem rest_lt {n place bias : Nat} (h : ¬ n < threshold place bias) :
    (n - threshold place bias) / (36 - threshold place bias) < n := by
  have pos : 1 ≤ threshold place bias := by grind [threshold]
  refine Nat.lt_of_le_of_lt (Nat.div_le_self _ _) ?_
  omega

/-- The digits of a count from a place on. -/
def digits (bias place n : Nat) : List Char :=
  if n < threshold place bias then [digit n]
  else
    digit (threshold place bias + (n - threshold place bias) % (36 - threshold place bias)) ::
      digits bias (place + 36) ((n - threshold place bias) / (36 - threshold place bias))
termination_by n
decreasing_by exact rest_lt ‹_›

/-- What is known while characters are written in ascending order: the count since the one that was
written last, the bias, and the number of characters and the digits written so far. -/
structure Progress where
  delta : Nat
  bias : Nat
  written : Nat
  out : List Char

/-- Passes over a character of the label while the character `n` is written. -/
def pass (basic n : Nat) (p : Progress) (c : Char) : Progress :=
  if c.toNat < n then { p with delta := p.delta + 1 }
  else if c.toNat = n then
    { delta := 0
      -- The count to the first character beyond ASCII says least about those that follow.
      bias := adapt p.delta (p.written + 1) (p.written = basic)
      written := p.written + 1
      out := p.out ++ digits p.bias 36 p.delta }
  else p

/-- Writes characters, given in ascending order after `previous`. -/
def writeAll (label : List Char) (basic previous : Nat) : List Nat → Progress → Progress
  | [], p => p
  | n :: rest, p =>
    let p := { p with delta := p.delta + (n - previous - 1) * (p.written + 1) }
    let p := label.foldl (pass basic n) p
    writeAll label basic n rest { p with delta := p.delta + 1 }

/-- The ASCII form of a label. -/
def encode (label : List Char) : List Char :=
  let basic := label.filter fun c => c.toNat < 0x80
  let others := (label.filter fun c => 0x80 ≤ c.toNat).map Char.toNat
  let others := (others.mergeSort).eraseDups
  let start : Progress := ⟨0, 72, basic.length, []⟩
  let p := writeAll label basic.length 0x7f others start
  (if basic.isEmpty then [] else basic ++ ['-']) ++ p.out

/-! ### Reading -/

/-- The digit of a letter or figure. -/
def digitOf? (c : Char) : Option Nat :=
  let n := c.toNat
  if 0x61 ≤ n && n ≤ 0x7a then some (n - 0x61)
  else if 0x41 ≤ n && n ≤ 0x5a then some (n - 0x41)
  else if 0x30 ≤ n && n ≤ 0x39 then some (n - 0x30 + 26)
  else none

/-- What is known while counts are read: the characters so far, the one that was put in last, with
the position after it, the bias, the count so far, what its next digit is worth, and the place of
that digit, 36 for the first one. -/
structure Reading where
  label : List Char
  point : Nat
  position : Nat
  bias : Nat
  count : Nat
  weight : Nat
  place : Nat

/-- Puts in the character that is a count further on. -/
def Reading.put? (basic : Nat) (r : Reading) (count : Nat) : Option Reading :=
  let points := r.label.length + 1
  let total := r.position + count
  let point := r.point + total / points
  let position := total % points
  if point.isValidChar then
    some
      { label := r.label.take position ++ Char.ofNat point :: r.label.drop position
        point := point
        position := position + 1
        bias := adapt count points (r.label.length = basic)
        count := 0
        weight := 1
        place := 36 }
  else none

/-- The bound of the counts that a form may hold. -/
def countBound : Nat := 0x100000000

/-- Reads digits; the last one has to end a count. -/
def readAll (basic : Nat) (r : Reading) : List Char → Option (List Char)
  | [] => if r.place = 36 then some r.label else none
  | c :: rest =>
    match digitOf? c with
    | none => none
    | some d =>
      let count := r.count + d * r.weight
      let limit := threshold r.place r.bias
      if countBound ≤ r.position + count then none
      else if d < limit then
        match r.put? basic count with
        | some r => readAll basic r rest
        | none => none
      else
        let weight := r.weight * (36 - limit)
        if countBound ≤ weight then none
        else readAll basic { r with count, weight, place := r.place + 36 } rest

/-- The label that an ASCII form stands for. -/
def decode? (form : List Char) : Option (List Char) :=
  let digits := (form.reverse.takeWhile fun c => c ≠ '-').reverse
  let basic := form.take (form.length - digits.length - 1)
  -- A dash at the very start separates nothing, and is no digit either.
  let digits := if basic.isEmpty then form else digits
  readAll basic.length ⟨basic, 0x80, 0, 72, 0, 1, 36⟩ digits

end ConferenceSync.Url.Punycode
