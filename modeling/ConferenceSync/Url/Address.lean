import ConferenceSync.Text.Digits
import ConferenceSync.Text.Hexadecimal
import ConferenceSync.Text.Split

/-!
# Numeric hosts

A host that ends in a number is an IPv4 address: up to four numbers, the last of which fills the
octets that are left. A host in brackets is an IPv6 address: eight numbers of four hexadecimal
digits, of which one run of zeros may be left out, and the last two of which may be written as an
IPv4 address.

## Main definitions

* `Address.endsInNumber` — whether a host has to be an IPv4 address
* `Address.ipv4Text?`, `Address.ipv6Text?` — the canonical text of an address
-/

namespace ConferenceSync.Url.Address

/-- The value of a digit in a base of at most sixteen. -/
def digitIn? (base : Nat) (c : Char) : Option Nat :=
  (Text.hexValue? c).filter (· < base)

/-- The number that digits in a base stand for. -/
def numberIn? (base : Nat) (cs : List Char) : Option Nat :=
  cs.foldlM (fun n c => (digitIn? base c).map (base * n + ·)) 0

/-- The number of a part of an IPv4 address: hexadecimal after `0x`, octal after another zero,
else decimal. -/
def partNumber? : List Char → Option Nat
  | [] => none
  | '0' :: 'x' :: cs => numberIn? 16 cs
  | '0' :: 'X' :: cs => numberIn? 16 cs
  | '0' :: c :: cs => numberIn? 8 (c :: cs)
  | cs => numberIn? 10 cs

/-- The parts of a host; an empty last one does not count. -/
def parts (host : List Char) : List (List Char) :=
  let all := Text.splitAt '.' host
  if 1 < all.length && all.getLast? = some [] then all.dropLast else all

/-- Whether a host has to be an IPv4 address. -/
def endsInNumber (host : List Char) : Bool :=
  match (parts host).getLast? with
  | none => false
  | some last => (!last.isEmpty && last.all Text.isDigit) || (partNumber? last).isSome

/-- The octets of an IPv4 address from the numbers of its parts. -/
def ipv4Octets? (numbers : List Nat) : Option (List Nat) :=
  match numbers.reverse with
  | [] => none
  | last :: front =>
    -- The last number fills all octets that the numbers before it leave.
    let free := 4 - front.length
    if 3 < front.length || Nat.pow 256 free ≤ last || front.any (255 < ·) then none
    else
      some (front.reverse ++ (List.range free).map fun i => last / Nat.pow 256 (free - 1 - i) % 256)

/-- The canonical text of an IPv4 address. -/
def ipv4Text? (host : List Char) : Option String := do
  let numbers ← (parts host).mapM partNumber?
  let octets ← ipv4Octets? numbers
  return ".".intercalate (octets.map toString)

/-- The numbers of an IPv6 address as far as they have been read, and how many of them come before
the run of zeros that is left out, if it has been met. -/
structure Pieces where
  numbers : List Nat
  gap? : Option Nat

/-- A decimal number below 256 without needless zeros. -/
def octet? (cs : List Char) : Option Nat :=
  if cs.isEmpty || !cs.all Text.isDigit || (cs.head? = some '0' && 1 < cs.length) then none
  else
    let n := Text.naturalFrom 0 cs
    if n < 256 then some n else none

/-- The two numbers that an IPv4 address stands for. -/
def embedded? (cs : List Char) : Option (List Nat) := do
  match ← (Text.splitAt '.' cs).mapM octet? with
  | [a, b, c, d] => some [256 * a + b, 256 * c + d]
  | _ => none

/-- Reads numbers from the front of one on. Every step takes characters off. -/
def readPieces : Nat → Pieces → List Char → Option Pieces
  | _, p, [] => some p
  | 0, _, _ => none
  | fuel + 1, p, c :: cs =>
    if 8 ≤ p.numbers.length then none
    else if c = ':' then
      if p.gap?.isSome then none
      else readPieces fuel ⟨p.numbers ++ [0], some (p.numbers.length + 1)⟩ cs
    else
      -- At most four digits count; a fifth one is no separator, and so an error below.
      let word := ((c :: cs).take 4).takeWhile fun c => (Text.hexValue? c).isSome
      let rest := (c :: cs).drop word.length
      match rest with
      | '.' :: _ =>
        if word.isEmpty || 6 < p.numbers.length then none
        else (embedded? (c :: cs)).map fun numbers => ⟨p.numbers ++ numbers, p.gap?⟩
      | ':' :: more =>
        if more.isEmpty then none
        else (numberIn? 16 word).bind fun n => readPieces fuel ⟨p.numbers ++ [n], p.gap?⟩ more
      | [] => (numberIn? 16 word).map fun n => ⟨p.numbers ++ [n], p.gap?⟩
      | _ => none

/-- The eight numbers of an IPv6 address. -/
def ipv6Numbers? (cs : List Char) : Option (List Nat) := do
  let p ← match cs with
    | ':' :: ':' :: rest => readPieces rest.length ⟨[0], some 1⟩ rest
    | ':' :: _ => none
    | _ => readPieces cs.length ⟨[], none⟩ cs
  match p.gap? with
  | some gap =>
    if 8 < p.numbers.length then none
    else
      some (p.numbers.take gap ++ List.replicate (8 - p.numbers.length) 0 ++ p.numbers.drop gap)
  | none => if p.numbers.length = 8 then some p.numbers else none

/-- The start and the length of the first of the longest runs of zeros, from the place `i` on. -/
def longestZeros (i : Nat) : List Nat → Nat × Nat
  | [] => (i, 0)
  | n :: rest =>
    let here := ((n :: rest).takeWhile (· = 0)).length
    let (start, length) := longestZeros (i + 1) rest
    -- Of runs of one length the first one is kept, which is found last.
    if length ≤ here then (i, here) else (start, length)

/-- Numbers in hexadecimal digits, with colons between them. -/
def wordsText (numbers : List Nat) : String :=
  ":".intercalate (numbers.map fun n => String.ofList (Nat.toDigits 16 n))

/-- The canonical text of an IPv6 address in brackets. The first of the longest runs of at least
two zeros is left out. -/
def ipv6Text? (cs : List Char) : Option String :=
  (ipv6Numbers? cs).map fun numbers =>
    let (start, length) := longestZeros 0 numbers
    if length < 2 then "[" ++ wordsText numbers ++ "]"
    else
      "[" ++ wordsText (numbers.take start) ++ "::" ++ wordsText (numbers.drop (start + length))
        ++ "]"

end ConferenceSync.Url.Address
