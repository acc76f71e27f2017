import ConferenceSync.Text.Hexadecimal

/-!
# Percent escapes

In the parts of a URL some characters are written as the octets of their UTF-8 form, each as a
percent sign and two hexadecimal digits. Which ones depends on the part.

## Main definitions

* `escape` — characters with those of a set escaped
* `inUserinfo`, `inPath`, `inQuery`, `inFragment` — the characters that are escaped in a part
* `unescape` — octets with the escapes undone
-/

namespace ConferenceSync.Url

/-- The digit of a number below sixteen, in upper case. -/
def upperHexDigit (n : Nat) : Char :=
  (Text.hexDigit n).toUpper

/-- The escape of an octet. -/
def escapeOctet (b : UInt8) : List Char :=
  ['%', upperHexDigit (b.toNat / 16), upperHexDigit (b.toNat % 16)]

/-- A character, escaped if it is in a set. -/
def escapeChar (escaped : Char → Bool) (c : Char) : List Char :=
  if escaped c then (String.singleton c).toUTF8.toList.flatMap escapeOctet else [c]

/-- Characters with those of a set escaped. -/
def escape (escaped : Char → Bool) (cs : List Char) : List Char :=
  cs.flatMap (escapeChar escaped)

/-- Control characters and all that is not in ASCII. -/
def isControl (c : Char) : Bool := c.toNat < 0x20 || 0x7f ≤ c.toNat

/-- What is escaped in a fragment. -/
def inFragment (c : Char) : Bool := isControl c || [' ', '"', '<', '>', '`'].contains c

/-- What is escaped in a path. -/
def inPath (c : Char) : Bool := inFragment c || ['#', '?', '\x7b', '\x7d'].contains c

/-- What is escaped in the name and the password of a user. -/
def inUserinfo (c : Char) : Bool :=
  inPath c || ['/', ':', ';', '=', '@', '[', '\\', ']', '^', '|'].contains c

/-- What is escaped in a query. Schemes with a fixed syntax escape the apostrophe too. -/
def inQuery (special : Bool) (c : Char) : Bool :=
  isControl c || [' ', '"', '#', '<', '>'].contains c || (special && c = '\'')

/-- The octet that an escape after its percent sign stands for. -/
def escapedOctet? : List UInt8 → Option UInt8
  | a :: b :: _ => do
    let hi ← Text.hexValue? (Char.ofNat a.toNat)
    let lo ← Text.hexValue? (Char.ofNat b.toNat)
    return UInt8.ofNat (16 * hi + lo)
  | _ => none

/-- Octets with the escapes undone; `skip` counts the digits that belong to an escape before. A
percent sign without two digits stays. -/
def unescapeAfter : Nat → List UInt8 → List UInt8
  | _, [] => []
  | skip + 1, _ :: rest => unescapeAfter skip rest
  | 0, b :: rest =>
    match if b = 0x25 then escapedOctet? rest else none with
    | some octet => octet :: unescapeAfter 2 rest
    | none => b :: unescapeAfter 0 rest

/-- Octets with the escapes undone. -/
def unescape (octets : List UInt8) : List UInt8 :=
  unescapeAfter 0 octets

end ConferenceSync.Url
