import ConferenceSync.Text.Blank
import ConferenceSync.Text.Hexadecimal
import ConferenceSync.Text.Units

/-!
# Keys of downloaded files

A downloaded file is kept under a short key made of its URL: a polynomial hash of the UTF-16 code
units and the number of octets, each as a word of 32 bits.

## Main definitions

* `weakHash` — the hash and the length of a text, sixteen hexadecimal digits
* `urlKey` — the key of a URL
-/

namespace ConferenceSync.Digest

/-- The polynomial hash with base 31, modulo `2 ^ 32`. -/
def unitsHash (units : List Nat) : UInt32 :=
  units.foldl (fun h u => h * 31 + UInt32.ofNat u) 0

/-- The hash of a text and the number of its octets. -/
def weakHash (s : String) : String :=
  Text.hexWord (unitsHash (Text.units16 s)) ++ Text.hexWord (UInt32.ofNat s.utf8ByteSize)

/-- The key under which the file at a URL is kept; blanks around the URL do not count. -/
def urlKey (url : String) : String :=
  weakHash (Text.trim url) ++ ".json"

end ConferenceSync.Digest
