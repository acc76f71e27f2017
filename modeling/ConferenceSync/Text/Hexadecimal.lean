/-!
# Hexadecimal text

Numbers and octets in base sixteen, written in lower case.

## Main definitions

* `hexDigit` — the digit of a number below sixteen
* `hexValue?` — the value of a digit of either case
* `hexWord` — a 32-bit word as eight digits
* `hexOctets` — octets as two digits each
* `octetsOfHex?` — the octets that a text of digit pairs stands for
-/

namespace ConferenceSync.Text

/-- The digit of a number below sixteen. -/
def hexDigit (n : Nat) : Char :=
  if n < 10 then Char.ofNat (0x30 + n) else Char.ofNat (0x61 + (n - 10))

/-- The value of a hexadecimal digit of either case. -/
def hexValue? (c : Char) : Option Nat :=
  if '0' ≤ c && c ≤ '9' then some (c.toNat - 0x30)
  else if 'a' ≤ c && c ≤ 'f' then some (c.toNat - 0x61 + 10)
  else if 'A' ≤ c && c ≤ 'F' then some (c.toNat - 0x41 + 10)
  else none

/-- The two digits of an octet. -/
def hexOctet (b : UInt8) : List Char :=
  [hexDigit (b.toNat / 16), hexDigit (b.toNat % 16)]

/-- Octets as two digits each. -/
def hexOctets (bs : List UInt8) : String :=
  String.ofList (bs.flatMap hexOctet)

/-- A 32-bit word as eight digits, the highest first. -/
def hexWord (w : UInt32) : String :=
  String.ofList ([28, 24, 20, 16, 12, 8, 4, 0].map fun k => hexDigit (w.toNat >>> k % 16))

/-- The octets that pairs of digits stand for. -/
def octetsOfHexDigits? : List Char → Option (List UInt8)
  | [] => some []
  | [_] => none
  | a :: b :: rest => do
    let hi ← hexValue? a
    let lo ← hexValue? b
    let more ← octetsOfHexDigits? rest
    return UInt8.ofNat (16 * hi + lo) :: more

/-- The octets that a text of digit pairs stands for. -/
def octetsOfHex? (s : String) : Option (List UInt8) :=
  octetsOfHexDigits? s.toList

end ConferenceSync.Text
