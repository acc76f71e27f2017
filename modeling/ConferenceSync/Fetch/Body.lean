import ConferenceSync.Error
import ConferenceSync.Gzip.Member

/-!
# Bodies of responses

A body is text in UTF-8, which may be compressed.

## Main definitions

* `decodeBody` — the text of a body
-/

namespace ConferenceSync.Fetch

/-- The text that octets stand for in UTF-8. -/
def textOfOctets? (octets : List UInt8) : Option String :=
  String.fromUTF8? ⟨octets.toArray⟩

/-- The text of octets. -/
def decodeText (octets : List UInt8) : Except DecodeFault String :=
  match textOfOctets? octets with
  | some s => .ok s
  | none => .error .notText

/-- The text of a body, decompressed first if it starts like compressed data. -/
def decodeBody (octets : List UInt8) : Except DecodeFault String :=
  if Gzip.isGzip octets then
    match Gzip.gunzip octets with
    | .ok out => decodeText out
    | .error fault => .error (.compression fault)
  else decodeText octets

end ConferenceSync.Fetch
