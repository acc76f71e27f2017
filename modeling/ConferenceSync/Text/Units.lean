/-!
# UTF-16 code units

## Main definitions

* `units16` — the code units of a text, each below `2 ^ 16`
-/

namespace ConferenceSync.Text

/-- The UTF-16 code units of a character: one within the basic plane, else a surrogate pair. -/
def charUnits16 (c : Char) : List Nat :=
  let n := c.toNat
  if n < 0x10000 then [n]
  else [0xd800 + (n - 0x10000) / 0x400, 0xdc00 + (n - 0x10000) % 0x400]

/-- The UTF-16 code units of a text. -/
def units16 (s : String) : List Nat :=
  s.toList.flatMap charUnits16

end ConferenceSync.Text
