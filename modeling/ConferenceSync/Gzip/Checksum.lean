/-!
# The cyclic redundancy check of gzip

## Main definitions

* `crc32` — the check of octets, 32 bits
-/

namespace ConferenceSync.Gzip

/-- Divides the register by the polynomial, one bit at a time. -/
def crcShift : Nat → UInt32 → UInt32
  | 0, r => r
  | n + 1, r => crcShift n (if r &&& 1 = 1 then (r >>> 1) ^^^ 0xedb88320 else r >>> 1)

/-- The register after one more octet. -/
def crcStep (r : UInt32) (b : UInt8) : UInt32 :=
  crcShift 8 (r ^^^ b.toUInt32)

/-- The check of octets. -/
def crc32 (bs : List UInt8) : UInt32 :=
  bs.foldl crcStep 0xffffffff ^^^ 0xffffffff

example : crc32 [0x31, 0x32, 0x33, 0x34, 0x35, 0x36, 0x37, 0x38, 0x39] = 0xcbf43926 := by
  decide +kernel

end ConferenceSync.Gzip
