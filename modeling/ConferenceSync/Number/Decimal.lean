import ConferenceSync.Number.Binary64
import ConferenceSync.Text.Digits

/-!
# Decimal text of binary floating point numbers

The text of a number has the fewest digits that read back as the number, and of the texts with
that many digits the one nearest to it. Which of two that are equally near is taken, where the
point goes, and when an exponent is written, is the choice of a layout.

## Main definitions

* `Decimal` — a whole number times a power of ten
* `Decimal.shortest` — the shortest decimal that reads back as a finite number
* `Tie` — which of two equally near decimals is taken
* `DecimalLayout` — which decimals are written without an exponent, and how whole ones end
* `DecimalLayout.render` — the text of a number
* `Binary64.ofText?` — the number nearest to a decimal text
-/

namespace ConferenceSync.Number

/-- The decimal `digits * 10 ^ exponent`. -/
structure Decimal where
  digits : Nat
  exponent : Int
  deriving DecidableEq, Repr

/-- Which of two neighbouring decimals is taken for a number in the middle between them: the one
with an even last digit, or the one that is farther from zero. -/
inductive Tie where
  | toEven
  | away
  deriving DecidableEq, Repr

namespace Decimal

/-- Whether `d * 10 ^ k ≤ num / den`. -/
def leRatio (d : Nat) (k : Int) (num den : Nat) : Bool :=
  if 0 ≤ k then d * Nat.pow 10 k.toNat * den ≤ num else d * den ≤ num * Nat.pow 10 (-k).toNat

/-- Whether `num / den ≤ d * 10 ^ k`. -/
def ratioLe (num den : Nat) (d : Nat) (k : Int) : Bool :=
  if 0 ≤ k then num ≤ d * Nat.pow 10 k.toNat * den else num * Nat.pow 10 (-k).toNat ≤ d * den

/-- The whole part of `num / den` divided by `10 ^ k`. -/
def floorScaled (num den : Nat) (k : Int) : Nat :=
  if 0 ≤ k then num / (den * Nat.pow 10 k.toNat) else num * Nat.pow 10 (-k).toNat / den

/-- The number of decimal digits of a natural number; zero has none. -/
def digitCount (n : Nat) : Nat :=
  if n = 0 then 0 else (Nat.toDigits 10 n).length

/-- The power of ten of the first digit of a positive fraction. -/
def leadingPower (num den : Nat) : Int :=
  if den ≤ num then (digitCount (num / den) : Int) - 1
  else -(digitCount ((den + num - 1) / num - 1) : Int)

/-- The distance between `num / den` and `d * 10 ^ k`, as a numerator; the denominator is the same
for all `d`. -/
def distance (num den d : Nat) (k : Int) : Nat :=
  let (a, b) :=
    if 0 ≤ k then (num, d * Nat.pow 10 k.toNat * den) else (num * Nat.pow 10 (-k).toNat, d * den)
  if a ≤ b then b - a else a - b

/-- The bounds of what reads back as the number `value / den`, as numerators over `den`, and whether
they do so themselves. -/
structure Interval where
  value : Nat
  low : Nat
  high : Nat
  den : Nat
  closed : Bool
  deriving DecidableEq, Repr

/-- What reads back as a positive finite number: half the way to its neighbours. -/
def Interval.of (x : Binary64) : Interval :=
  let m := x.mantissa
  -- Below a power of two the neighbours are twice as close.
  let low := if x.fractionField = 0 && 1 < x.exponentField then 4 * m - 1 else 4 * m - 2
  let q := x.exponent - 2
  let (up, den) := if 0 ≤ q then (Nat.pow 2 q.toNat, 1) else (1, Nat.pow 2 (-q).toNat)
  ⟨4 * m * up, low * up, (4 * m + 2) * up, den, m % 2 == 0⟩

/-- Whether `d * 10 ^ k` lies in the interval. -/
def Interval.contains (i : Interval) (d : Nat) (k : Int) : Bool :=
  if i.closed then ratioLe i.low i.den d k && leRatio d k i.high i.den
  else !leRatio d k i.low i.den && !ratioLe i.high i.den d k

/-- Whether of two neighbouring decimals the lower one, with the digits `d`, is taken. -/
def takesLower (tie : Tie) (below above d : Nat) : Bool :=
  below < above || (below == above && tie == .toEven && d % 2 == 0)

/-- The decimal with `n` digits that reads back as the number and is nearest to it, if any does:
one of the two neighbours of the number on the grid of decimals with `n` digits. -/
def Interval.onGrid? (i : Interval) (tie : Tie) (n : Nat) : Option Decimal :=
  let k := leadingPower i.value i.den - n + 1
  let d := floorScaled i.value i.den k
  match i.contains d k, i.contains (d + 1) k with
  | false, false => none
  | true, false => some ⟨d, k⟩
  | false, true => some ⟨d + 1, k⟩
  | true, true =>
    let below := distance i.value i.den d k
    let above := distance i.value i.den (d + 1) k
    if takesLower tie below above d then some ⟨d, k⟩ else some ⟨d + 1, k⟩

/-- A decimal without zeros at the end of its digits. -/
def strip : Nat → Decimal → Decimal
  | 0, d => d
  | fuel + 1, d =>
    if d.digits ≠ 0 ∧ d.digits % 10 = 0 then strip fuel ⟨d.digits / 10, d.exponent + 1⟩ else d

/-- The shortest decimal that reads back as a finite number other than zero, without its sign.
Seventeen digits always suffice. -/
def shortest (tie : Tie) (x : Binary64) : Decimal :=
  let i := Interval.of x
  match (List.range 17).findSome? fun n => i.onGrid? tie (n + 1) with
  | some d => strip 20 d
  | none => ⟨0, 0⟩

end Decimal

/-- How decimals are laid out. One whose point stands after `point` of its digits is written without
an exponent if `positional point`, where a point before the first digit counts as negative; a whole
number ends in `.0` if `pointZero`; of two equally near decimals the one that `tie` names is
written. -/
structure DecimalLayout where
  positional : Int → Bool
  pointZero : Bool
  tie : Tie

namespace DecimalLayout

/-- The digits of a decimal with its point, and no exponent. -/
def renderPositional (l : DecimalLayout) (digits : List Char) (point : Int) : List Char :=
  if point ≤ 0 then
    '0' :: '.' :: (List.replicate (-point).toNat '0' ++ digits)
  else if (digits.length : Int) ≤ point then
    digits ++ List.replicate (point.toNat - digits.length) '0' ++
      (if l.pointZero then ['.', '0'] else [])
  else digits.take point.toNat ++ '.' :: digits.drop point.toNat

/-- The digits of a decimal with its point after the first digit, and an exponent with its sign. -/
def renderExponent (digits : List Char) (point : Int) : List Char :=
  let e := point - 1
  let head := match digits with
    | [] => []
    | [d] => [d]
    | d :: rest => d :: '.' :: rest
  head ++ 'e' :: (if e < 0 then '-' else '+') :: Nat.toDigits 10 e.natAbs

/-- The text of a number. -/
def render (l : DecimalLayout) (x : Binary64) : String :=
  if !x.isFinite then
    if x.isInfinite then (if x.isNegative then "-inf" else "inf") else "NaN"
  else
    let sign := if x.isNegative then ['-'] else []
    let body :=
      if x.isZero then '0' :: (if l.pointZero then ['.', '0'] else [])
      else
        let d := Decimal.shortest l.tie x
        let digits := Nat.toDigits 10 d.digits
        let point := d.exponent + digits.length
        if l.positional point then l.renderPositional digits point
        else renderExponent digits point
    String.ofList (sign ++ body)

/-- Every digit is written out, whole numbers have no point, and ties go away from zero. -/
def plain : DecimalLayout := ⟨fun _ => true, false, .away⟩

example : plain.render (Binary64.ofRatio true 1 10) = "-0.1" ∧
    plain.render (Binary64.ofNat (10 ^ 21)) = "1000000000000000000000" ∧
    plain.render (Binary64.zero true) = "-0" ∧
    plain.render (Binary64.ofRatio true 7378697629483821 4) = "-1844674407370955.3" ∧
    plain.render ⟨1⟩ = String.ofList ('0' :: '.' :: List.replicate 323 '0' ++ ['5']) := by
  decide +kernel

end DecimalLayout

namespace Binary64

/-- The number nearest to `digits * 10 ^ exponent`. Exponents far outside the range of finite
numbers give infinity or zero at once. -/
def ofDecimal (negative : Bool) (digits : Nat) (exponent : Int) : Binary64 :=
  let size : Int := Decimal.digitCount digits
  if digits = 0 then zero negative
  else if 400 < exponent + size then infinity negative
  else if exponent + size < -400 then zero negative
  else if 0 ≤ exponent then ofRatio negative (digits * Nat.pow 10 exponent.toNat) 1
  else ofRatio negative digits (Nat.pow 10 (-exponent).toNat)

/-- A magnitude from its decimal text: digits with at most one point among them, then an exponent
if any. -/
def magnitudeOf? (negative : Bool) (cs : List Char) : Option Binary64 :=
  let whole := cs.takeWhile Text.isDigit
  let rest := cs.dropWhile Text.isDigit
  let (fraction, rest) := match rest with
    | '.' :: more => (more.takeWhile Text.isDigit, more.dropWhile Text.isDigit)
    | _ => ([], rest)
  if whole.isEmpty && fraction.isEmpty then none
  else
    let digits := Text.naturalFrom 0 (whole ++ fraction)
    let scale : Int := -(fraction.length : Int)
    match rest with
    | [] => some (ofDecimal negative digits scale)
    | c :: more =>
      if c = 'e' || c = 'E' then
        (Text.integerOf? more).map fun e => ofDecimal negative digits (scale + e)
      else none

/-- The number nearest to a decimal text with an optional sign and exponent; `inf`, `infinity` and
`nan` in either case of letters name the others. -/
def ofText? (s : String) : Option Binary64 :=
  let (negative, cs) := match s.toList with
    | '-' :: cs => (true, cs)
    | '+' :: cs => (false, cs)
    | cs => (false, cs)
  let word := cs.map Char.toLower
  if word = ['i', 'n', 'f'] || word = ['i', 'n', 'f', 'i', 'n', 'i', 't', 'y'] then
    some (infinity negative)
  else if word = ['n', 'a', 'n'] then some nan
  else magnitudeOf? negative cs

end Binary64

end ConferenceSync.Number
