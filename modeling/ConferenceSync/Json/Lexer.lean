import ConferenceSync.Json.Value
import ConferenceSync.Text.Digits
import ConferenceSync.Text.Hexadecimal

/-!
# The words of a JSON text

Blanks, names, strings and numbers, each read from the front of a list of characters. A text is
read from left to right, and the first character that cannot continue it decides the fault.

Where a value is only skimmed, strings may hold half of a surrogate pair, numbers may be of any
size, and a number that ends too early counts as malformed.

## Main definitions

* `Json.Fault` — the three kinds of faults
* `Json.skipBlanks`, `Json.readName`, `Json.readString`, `Json.readNumber` — the words
-/

namespace ConferenceSync.Json

/-- Why a text does not give the wanted value: it ends too early, is not JSON, or is JSON of another
shape. -/
inductive Fault where
  | truncated
  | malformed
  | mismatched
  deriving DecidableEq, Repr

/-- How carefully a value is read: in full, or only to find its extent. -/
inductive Care where
  | full
  | skim
  deriving DecidableEq, Repr

/-- The result of reading a word: what it means, and the characters after it. -/
abbrev Reading (α : Type) := Except Fault (α × List Char)

/-- Whether a character may stand between words. -/
def isSpace (c : Char) : Bool :=
  c = ' ' || c = '\t' || c = '\n' || c = '\r'

/-- The characters from the next word on. -/
def skipBlanks (cs : List Char) : List Char :=
  cs.dropWhile isSpace

/-- Reads the rest of a name such as `null`. -/
def readName : List Char → List Char → Except Fault (List Char)
  | [], cs => .ok cs
  | _ :: _, [] => .error .truncated
  | n :: name, c :: cs => if n = c then readName name cs else .error .malformed

/-! ### Strings -/

/-- The character that a backslash and a letter stand for. -/
def simpleEscape? (c : Char) : Option Char :=
  if c = '"' || c = '\\' || c = '/' then some c
  else if c = 'b' then some '\x08'
  else if c = 'f' then some '\x0c'
  else if c = 'n' then some '\n'
  else if c = 'r' then some '\r'
  else if c = 't' then some '\t'
  else none

/-- The code unit that four hexadecimal digits stand for. -/
def codeUnit? (a b c d : Char) : Option Nat := do
  let a ← Text.hexValue? a
  let b ← Text.hexValue? b
  let c ← Text.hexValue? c
  let d ← Text.hexValue? d
  return ((a * 16 + b) * 16 + c) * 16 + d

/-- The fault of a code unit with fewer than four characters after it: four octets are looked at
before any of them is judged. -/
def shortUnitFault (cs : List Char) : Fault :=
  if 4 ≤ (String.ofList (cs.take 4)).utf8ByteSize then .malformed else .truncated

/-- Whether a code unit is the first half of a surrogate pair. -/
def isHighSurrogate (n : Nat) : Bool := 0xd800 ≤ n && n ≤ 0xdbff

/-- Whether a code unit is the second half of a surrogate pair. -/
def isLowSurrogate (n : Nat) : Bool := 0xdc00 ≤ n && n ≤ 0xdfff

/-- Reads the rest of a string after its opening quote; `acc` holds its characters so far, in
reverse order. -/
def readStringBody (care : Care) (acc : List Char) : List Char → Reading (List Char)
  | [] => .error .truncated
  | '"' :: rest => .ok (acc.reverse, rest)
  | '\\' :: rest =>
    match rest with
    | [] => .error .truncated
    | 'u' :: a :: b :: c :: d :: rest =>
      match codeUnit? a b c d with
      | none => .error .malformed
      | some n =>
        -- What is skimmed may hold half of a surrogate pair.
        if care = .skim then readStringBody care acc rest
        else if isLowSurrogate n then .error .malformed
        else if !isHighSurrogate n then readStringBody care (Char.ofNat n :: acc) rest
        else
          match rest with
          | [] => .error .truncated
          | ['\\'] => .error .truncated
          | '\\' :: 'u' :: e :: f :: g :: h :: rest =>
            match codeUnit? e f g h with
            | none => .error .malformed
            | some m =>
              if isLowSurrogate m then
                let point := 0x10000 + (n - 0xd800) * 0x400 + (m - 0xdc00)
                readStringBody care (Char.ofNat point :: acc) rest
              else .error .malformed
          | '\\' :: 'u' :: rest => .error (shortUnitFault rest)
          | _ => .error .malformed
    | 'u' :: rest => .error (shortUnitFault rest)
    | c :: rest =>
      match simpleEscape? c with
      | some e => readStringBody care (e :: acc) rest
      | none => .error .malformed
  | c :: rest =>
    if c.toNat < 0x20 then .error .malformed else readStringBody care (c :: acc) rest

/-- Reads the rest of a string after its opening quote. -/
def readString (care : Care) (cs : List Char) : Reading String :=
  match readStringBody care [] cs with
  | .ok (s, rest) => .ok (String.ofList s, rest)
  | .error e => .error e

/-! ### Numbers -/

/-- Whether a list starts with a decimal digit. -/
def startsWithDigit : List Char → Bool
  | c :: _ => Text.isDigit c
  | [] => false

/-- Reads digits on as long as the number that they stand for stays below `2 ^ 64`. -/
def readSignificand (n : Nat) : List Char → Nat × List Char
  | [] => (n, [])
  | c :: rest =>
    if Text.isDigit c && 10 * n + Text.digitValue c < 0x10000000000000000 then
      readSignificand (10 * n + Text.digitValue c) rest
    else (n, c :: rest)

/-- A power of ten, rounded. -/
def powerOfTen (k : Nat) : Number.Binary64 := Number.Binary64.ofNat (Nat.pow 10 k)

/-- A number times a power of ten, by one multiplication or division with a rounded power of at
most `10 ^ 308` at a time. A number that grows beyond all finite numbers is malformed. -/
def scaleByTen : Nat → Number.Binary64 → Int → Except Fault Number.Binary64
  | 0, x, _ => .ok x
  | fuel + 1, x, e =>
    if e.natAbs ≤ 308 then
      if 0 ≤ e then
        let y := x.mul (powerOfTen e.natAbs)
        if y.isInfinite then .error .malformed else .ok y
      else .ok (x.div (powerOfTen e.natAbs))
    else if x.isZero then .ok x
    else if 0 ≤ e then .error .malformed
    else scaleByTen fuel (x.div (powerOfTen 308)) (e + 308)

/-- The floating point number `significand * 10 ^ e` with a sign. Three divisions suffice for any
exponent, since a significand has at most twenty digits. -/
def floatOfParts (negative : Bool) (significand : Nat) (e : Int) :
    Except Fault Number.Binary64 := do
  let x ← scaleByTen 4 (Number.Binary64.ofNat significand) e
  return if negative then x.neg else x

/-- Ends a floating point number with the characters after it. -/
def endFloat (negative : Bool) (significand : Nat) (e : Int) (rest : List Char) :
    Reading JsonNumber :=
  (floatOfParts negative significand e).map fun x => (.float x, rest)

/-- The least and the greatest exponent that is told apart. -/
def clampExponent (e : Int) : Int := max (-0x80000000) (min e 0x7fffffff)

/-- Reads the rest of a number after the letter of its exponent. -/
def readExponent (negative : Bool) (significand : Nat) (e : Int) (cs : List Char) :
    Reading JsonNumber :=
  let (down, cs) := match cs with
    | '+' :: rest => (false, rest)
    | '-' :: rest => (true, rest)
    | _ => (false, cs)
  if cs.isEmpty then .error .truncated
  else if !startsWithDigit cs then .error .malformed
  else
    let k : Int := Text.naturalFrom 0 (cs.takeWhile Text.isDigit)
    let rest := cs.dropWhile Text.isDigit
    -- Such an exponent decides alone, unless the significand is zero.
    if 0x7fffffff < k then
      if significand ≠ 0 && !down then .error .malformed
      else .ok (.float (Number.Binary64.zero negative), rest)
    else endFloat negative significand (clampExponent (if down then e - k else e + k)) rest

/-- Reads the exponent of a number if it has one. -/
def readExponentIfAny (negative : Bool) (significand : Nat) (e : Int) :
    List Char → Reading JsonNumber
  | 'e' :: rest => readExponent negative significand e rest
  | 'E' :: rest => readExponent negative significand e rest
  | rest => endFloat negative significand e rest

/-- Reads the rest of a number after its point. Digits that would make the significand too large
are passed over. -/
def readFraction (negative : Bool) (significand : Nat) (e : Int) (cs : List Char) :
    Reading JsonNumber :=
  let (n, rest) := readSignificand significand cs
  let taken := cs.length - rest.length
  -- Digits are left only if the significand is full; none of them can change it any more.
  if startsWithDigit rest then
    readExponentIfAny negative n (e - taken) (rest.dropWhile Text.isDigit)
  else if taken = 0 then
    .error (if rest.isEmpty then .truncated else .malformed)
  else readExponentIfAny negative n (e - taken) rest

/-- Ends a whole number. A negative one that does not fit becomes a floating point number, and so
does `-0`. -/
def endWhole (negative : Bool) (n : Nat) : JsonNumber :=
  if !negative then .whole n
  else if n = 0 || 0x8000000000000000 < n then .float (Number.Binary64.ofNat n).neg
  else .whole (-n)

/-- Reads the rest of a number after the digits in front of its point. Digits beyond the
significand count as powers of ten. -/
def readAfterWhole (negative : Bool) (n : Nat) (cs : List Char) : Reading JsonNumber :=
  let extra := (cs.takeWhile Text.isDigit).length
  let rest := cs.dropWhile Text.isDigit
  match rest with
  | '.' :: more => readFraction negative n extra more
  | 'e' :: more => readExponent negative n extra more
  | 'E' :: more => readExponent negative n extra more
  | _ => if extra = 0 then .ok (endWhole negative n, rest) else endFloat negative n extra rest

/-- Reads a number after its sign. -/
def readMagnitude (negative : Bool) : List Char → Reading JsonNumber
  | [] => .error .truncated
  | '0' :: rest =>
    if startsWithDigit rest then .error .malformed else readAfterWhole negative 0 rest
  | c :: rest =>
    if Text.isDigit c then
      let (n, rest) := readSignificand 0 (c :: rest)
      readAfterWhole negative n rest
    else .error .malformed

/-- Skims digits, at least one. -/
def skimDigits (cs : List Char) : Except Fault (List Char) :=
  if startsWithDigit cs then .ok (cs.dropWhile Text.isDigit) else .error .malformed

/-- Skims the exponent of a number if it has one. -/
def skimExponentIfAny : List Char → Except Fault (List Char)
  | c :: rest =>
    if c = 'e' || c = 'E' then
      match rest with
      | '+' :: more => skimDigits more
      | '-' :: more => skimDigits more
      | _ => skimDigits rest
    else .ok (c :: rest)
  | [] => .ok []

/-- Skims a number after its sign. -/
def skimMagnitude (cs : List Char) : Except Fault (List Char) := do
  let rest ← match cs with
    | '0' :: rest => if startsWithDigit rest then .error .malformed else .ok rest
    | _ => skimDigits cs
  match rest with
  | '.' :: more => skimExponentIfAny (← skimDigits more)
  | _ => skimExponentIfAny rest

/-- Reads a number, which starts with a sign `-` or a digit. -/
def readNumber (care : Care) (cs : List Char) : Reading JsonNumber :=
  let (negative, cs) := match cs with
    | '-' :: rest => (true, rest)
    | _ => (false, cs)
  match care with
  | .full => readMagnitude negative cs
  | .skim => (skimMagnitude cs).map fun rest => (.whole 0, rest)

end ConferenceSync.Json
