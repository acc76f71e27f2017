/-!
# Whole numbers in decimal

The reading of decimal digits, with a sign in front where one is allowed, and the widths within
which a whole number is accepted.

## Main definitions

* `isDigit`, `digitValue` — the decimal digits and their values
* `naturalOf?` — the number that a non-empty run of digits stands for
* `integerOf?` — the same with a sign `+` or `-` in front
* `FitsInt64`, `FitsInt32` — the ranges of signed 64-bit and 32-bit numbers
* `int64Of?` — a signed 64-bit number from its decimal text
-/

namespace ConferenceSync.Text

/-- Whether a character is a decimal digit. -/
def isDigit (c : Char) : Bool :=
  '0' ≤ c && c ≤ '9'

/-- The value of a decimal digit. -/
def digitValue (c : Char) : Nat :=
  c.toNat - 0x30

/-- The number that digits stand for, read on from the number that the digits before them
stand for. -/
def naturalFrom (n : Nat) (cs : List Char) : Nat :=
  cs.foldl (fun n c => 10 * n + digitValue c) n

/-- The number that a non-empty run of digits stands for. -/
def naturalOf? (cs : List Char) : Option Nat :=
  if cs.isEmpty || !cs.all isDigit then none else some (naturalFrom 0 cs)

/-- The whole number that digits with an optional sign stand for. -/
def integerOf? : List Char → Option Int
  | '+' :: cs => (naturalOf? cs).map Int.ofNat
  | '-' :: cs => (naturalOf? cs).map fun n => -Int.ofNat n
  | cs => (naturalOf? cs).map Int.ofNat

/-- The signed 64-bit numbers. -/
def FitsInt64 (n : Int) : Prop :=
  -0x8000000000000000 ≤ n ∧ n < 0x8000000000000000

instance (n : Int) : Decidable (FitsInt64 n) :=
  inferInstanceAs (Decidable (_ ∧ _))

/-- The signed 32-bit numbers. -/
def FitsInt32 (n : Int) : Prop :=
  -0x80000000 ≤ n ∧ n < 0x80000000

instance (n : Int) : Decidable (FitsInt32 n) :=
  inferInstanceAs (Decidable (_ ∧ _))

/-- A signed 64-bit number from its decimal text; a sign `+` is allowed. -/
def int64Of? (cs : List Char) : Option Int :=
  (integerOf? cs).filter fun n => decide (FitsInt64 n)

end ConferenceSync.Text
