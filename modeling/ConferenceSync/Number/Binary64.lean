/-!
# Binary floating point numbers of 64 bits

A number is kept as its 64 bits: a sign, eleven bits of exponent, fifty-two bits of fraction.
Arithmetic is defined by exact natural number arithmetic followed by one rounding to the nearest
number, a tie going to the even one.

## Main definitions

* `Binary64` — the bits of a number
* `Binary64.ofRatio` — the number nearest to a fraction
* `Binary64.ofNat`, `Binary64.ofInt` — the number nearest to a whole number
* `Binary64.mul`, `Binary64.div` — the rounded product and quotient of finite numbers
-/

namespace ConferenceSync.Number

/-- A quotient rounded to the nearest natural number, a tie going to the even one. -/
def roundDiv (num den : Nat) : Nat :=
  let q := num / den
  let twice := 2 * (num % den)
  if twice < den || (twice == den && q % 2 == 0) then q else q + 1

/-- A binary floating point number of 64 bits: the sign, the exponent and the fraction, from the
highest bit down. -/
structure Binary64 where
  bits : UInt64
  deriving DecidableEq, Repr

namespace Binary64

/-- The number of values that the field of the fraction can have, `2 ^ 52`. -/
abbrev fractionCount : Nat := 0x10000000000000

/-- What the sign bit is worth. -/
abbrev signWeight : Nat := 0x8000000000000000

/-- The field of eleven bits that holds the exponent. -/
def exponentField (x : Binary64) : Nat :=
  x.bits.toNat / fractionCount % 0x800

/-- The field of fifty-two bits that holds the fraction. -/
def fractionField (x : Binary64) : Nat :=
  x.bits.toNat % fractionCount

/-- Whether the sign bit is set. -/
def isNegative (x : Binary64) : Bool :=
  signWeight ≤ x.bits.toNat

/-- Whether a number is neither infinite nor a NaN. -/
def isFinite (x : Binary64) : Bool :=
  x.exponentField != 2047

/-- Whether a number is infinite. -/
def isInfinite (x : Binary64) : Bool :=
  x.exponentField == 2047 && x.fractionField == 0

/-- Whether a number is `0` or `-0`. -/
def isZero (x : Binary64) : Bool :=
  x.exponentField == 0 && x.fractionField == 0

/-- The whole number `m` of the magnitude `m * 2 ^ q` of a finite number. -/
def mantissa (x : Binary64) : Nat :=
  if x.exponentField = 0 then x.fractionField else x.fractionField + fractionCount

/-- The exponent `q` of the magnitude `m * 2 ^ q` of a finite number. -/
def exponent (x : Binary64) : Int :=
  if x.exponentField = 0 then -1074 else (x.exponentField : Int) - 1075

/-- The number with the given sign and fields. -/
def ofFields (negative : Bool) (exponent fraction : Nat) : Binary64 :=
  ⟨UInt64.ofNat ((if negative then signWeight else 0) + exponent * fractionCount + fraction)⟩

/-- Infinity of either sign. -/
def infinity (negative : Bool) : Binary64 := ofFields negative 2047 0

/-- The NaN of arithmetic. -/
def nan : Binary64 := ofFields false 2047 (fractionCount / 2)

/-- Zero of either sign. -/
def zero (negative : Bool) : Binary64 := ofFields negative 0 0

/-- The number with the magnitude `m * 2 ^ q`, where `m` is at most `2 ^ 53` and, unless `q` is
the least exponent, at least `2 ^ 52`. -/
def ofMagnitude (negative : Bool) (m : Nat) (q : Int) : Binary64 :=
  -- Rounding up may have made the magnitude one digit longer.
  let (m, q) := if m = 2 * fractionCount then (fractionCount, q + 1) else (m, q)
  if m < fractionCount then ofFields negative 0 m
  else if 971 < q then infinity negative
  else ofFields negative (q + 1075).toNat (m - fractionCount)

/-- A quotient divided by `2 ^ q` and rounded. -/
def roundScaled (num den : Nat) (q : Int) : Nat :=
  if 0 ≤ q then roundDiv num (den * Nat.pow 2 q.toNat)
  else roundDiv (num * Nat.pow 2 (-q).toNat) den

/-- Whether `num / den < 2 ^ k`. -/
def ratioBelowPow (num den : Nat) (k : Int) : Bool :=
  if 0 ≤ k then num < den * Nat.pow 2 k.toNat else num * Nat.pow 2 (-k).toNat < den

/-- The number nearest to the fraction `num / den`, a tie going to the even one. -/
def ofRatio (negative : Bool) (num den : Nat) : Binary64 :=
  if num = 0 then zero negative
  else
    let e : Int := (Nat.log2 num : Int) - (Nat.log2 den : Int)
    -- The difference of the logarithms is at most one too large.
    let e := if ratioBelowPow num den e then e - 1 else e
    if 1100 < e then infinity negative
    else if e < -1200 then zero negative
    else
      -- Below the least exponent a number has fewer digits, and is rounded to those.
      let q := max (e - 52) (-1074)
      ofMagnitude negative (roundScaled num den q) q

/-- The number nearest to a natural number. -/
def ofNat (n : Nat) : Binary64 := ofRatio false n 1

/-- The number nearest to a whole number. -/
def ofInt (n : Int) : Binary64 := ofRatio (n < 0) n.natAbs 1

/-- The number with the other sign. -/
def neg (x : Binary64) : Binary64 := ⟨x.bits ^^^ 0x8000000000000000⟩

/-- A fraction `num / den` times `2 ^ q`, rounded. -/
def ofScaledRatio (negative : Bool) (num den : Nat) (q : Int) : Binary64 :=
  if 0 ≤ q then ofRatio negative (num * Nat.pow 2 q.toNat) den
  else ofRatio negative num (den * Nat.pow 2 (-q).toNat)

/-- The rounded product of finite numbers. -/
def mul (x y : Binary64) : Binary64 :=
  ofScaledRatio (x.isNegative != y.isNegative) (x.mantissa * y.mantissa) 1
    (x.exponent + y.exponent)

/-- The rounded quotient of finite numbers, the second of which is not zero. -/
def div (x y : Binary64) : Binary64 :=
  ofScaledRatio (x.isNegative != y.isNegative) x.mantissa y.mantissa (x.exponent - y.exponent)

example : ofNat 1 = ⟨0x3ff0000000000000⟩ ∧ ofRatio true 1 10 = ⟨0xbfb999999999999a⟩ ∧
    ofNat (2 ^ 53 + 1) = ⟨0x4340000000000000⟩ ∧ ofRatio false 1 (2 ^ 1074) = ⟨1⟩ ∧
    (ofNat 1).div (ofNat 10) = ofRatio false 1 10 := by decide +kernel

end Binary64

end ConferenceSync.Number
