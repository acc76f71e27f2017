import ConferenceSync.Gzip.Checksum
import ConferenceSync.Gzip.Inflate

/-!
# Members of gzip data

A member is a header, deflated data, and a trailer with a check and the length of the output.
Only the first member of the data is unpacked; what follows it is ignored.

## Main definitions

* `isGzip` — whether octets start like gzip data
* `gunzip` — the output of the first member
-/

namespace ConferenceSync.Gzip

/-- The two octets that start a member. -/
def magic : List UInt8 := [0x1f, 0x8b]

/-- Whether octets start like gzip data. -/
def isGzip (bs : List UInt8) : Bool :=
  bs.take 2 == magic

/-- The result of reading from octets: the value, and the octets after it. -/
abbrev OctetReading (α : Type) := Except Fault (α × List UInt8)

/-- Reads `n` octets. -/
def takeOctets (n : Nat) (bs : List UInt8) : OctetReading (List UInt8) :=
  let word := bs.take n
  if word.length < n then .error .truncated else .ok (word, bs.drop n)

/-- The number that octets stand for, the lowest first. -/
def numberOfOctets : List UInt8 → Nat
  | [] => 0
  | b :: bs => b.toNat + 256 * numberOfOctets bs

/-- Reads a text of the header up to its zero; it may have at most 65535 octets. -/
def skipHeaderText (bs : List UInt8) : Except Fault (List UInt8) :=
  let text := bs.takeWhile (· != 0)
  if 65535 < text.length then .error .corrupt
  else
    match bs.drop text.length with
    | [] => .error .truncated
    | _ :: rest => .ok rest

/-- Whether a bit of the flags is set. -/
def hasFlag (flags : UInt8) (bit : Nat) : Bool :=
  flags.toNat.testBit bit

/-- Skips the header of a member: ten octets, and then, as the flags say, further data, a name and
a comment, and a check of the header itself. -/
def skipHeader (bs : List UInt8) : Except Fault (List UInt8) := do
  let (start, rest) ← takeOctets 10 bs
  let flags := start.getD 3 0
  -- The third octet names the way of packing, of which there is one.
  if start.take 3 != magic ++ [8] || 32 ≤ flags.toNat then .error .corrupt
  let rest ←
    if hasFlag flags 2 then do
      let (size, rest) ← takeOctets 2 rest
      let (_, rest) ← takeOctets (numberOfOctets size) rest
      pure rest
    else pure rest
  let rest ← if hasFlag flags 3 then skipHeaderText rest else pure rest
  let rest ← if hasFlag flags 4 then skipHeaderText rest else pure rest
  if hasFlag flags 1 then do
    let (check, after) ← takeOctets 2 rest
    -- The check covers the header without the check itself.
    let header := bs.take (bs.length - rest.length)
    if numberOfOctets check ≠ (crc32 header).toNat % 0x10000 then .error .corrupt
    else pure after
  else pure rest

/-- The output of the first member of gzip data. -/
def gunzip (bs : List UInt8) : Except Fault (List UInt8) := do
  let rest ← skipHeader bs
  let (out, bits) ← inflate (bitsOfOctets rest)
  let (trailer, _) ← readOctets 8 [] (alignBits bits)
  let check := numberOfOctets (trailer.take 4)
  let size := numberOfOctets (trailer.drop 4)
  if check ≠ (crc32 out).toNat || size ≠ out.length % 0x100000000 then .error .corrupt
  else return out

end ConferenceSync.Gzip
