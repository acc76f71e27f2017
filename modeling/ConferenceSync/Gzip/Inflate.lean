import ConferenceSync.Gzip.Huffman

/-!
# Unpacking deflated data

Deflated data is a sequence of blocks of bits. A block holds octets as they are, or symbols of
Huffman codes, which stand for octets and for repetitions of earlier output. The output is thought
to be preceded by zeros as far as a repetition can reach back.

## Main definitions

* `bitsOfOctets` — octets as bits, the lowest first
* `inflate` — the output of deflated data, and the bits after it
-/

namespace ConferenceSync.Gzip

/-- The bits of an octet, the lowest first. -/
def bitsOfOctet (b : UInt8) : List Bool :=
  (List.range 8).map fun k => b.toNat.testBit k

/-- The bits of octets, the lowest of each first. -/
def bitsOfOctets (bs : List UInt8) : List Bool :=
  bs.flatMap bitsOfOctet

/-- The number that bits stand for, the lowest first. -/
def numberOfBits : List Bool → Nat
  | [] => 0
  | b :: bits => b.toNat + 2 * numberOfBits bits

/-- Reads a number of `n` bits. -/
def readBits (n : Nat) (bits : List Bool) : BitReading Nat :=
  let word := bits.take n
  if word.length < n then .error .truncated else .ok (numberOfBits word, bits.drop n)

/-- The bits from the next whole octet on; the data ends with a whole octet. -/
def alignBits (bits : List Bool) : List Bool :=
  bits.drop (bits.length % 8)

/-- Reads octets. -/
def readOctets : Nat → List UInt8 → List Bool → BitReading (List UInt8)
  | 0, acc, bits => .ok (acc.reverse, bits)
  | n + 1, acc, bits =>
    match readBits 8 bits with
    | .ok (b, bits) => readOctets n (UInt8.ofNat b :: acc) bits
    | .error e => .error e

/-! ### Repetitions -/

/-- For the symbols from 257 on, the least length of a repetition and the number of bits that are
added to it. -/
def lengthBases : List (Nat × Nat) :=
  [(3, 0), (4, 0), (5, 0), (6, 0), (7, 0), (8, 0), (9, 0), (10, 0), (11, 1), (13, 1), (15, 1),
    (17, 1), (19, 2), (23, 2), (27, 2), (31, 2), (35, 3), (43, 3), (51, 3), (59, 3), (67, 4),
    (83, 4), (99, 4), (115, 4), (131, 5), (163, 5), (195, 5), (227, 5), (258, 0)]

/-- For the symbols of distances, the least distance and the number of bits that are added to
it. -/
def distanceBases : List (Nat × Nat) :=
  [(1, 0), (2, 0), (3, 0), (4, 0), (5, 1), (7, 1), (9, 2), (13, 2), (17, 3), (25, 3), (33, 4),
    (49, 4), (65, 5), (97, 5), (129, 6), (193, 6), (257, 7), (385, 7), (513, 8), (769, 8),
    (1025, 9), (1537, 9), (2049, 10), (3073, 10), (4097, 11), (6145, 11), (8193, 12), (12289, 12),
    (16385, 13), (24577, 13)]

/-- Reads the bits that a symbol asks for. -/
def readBased (bases : List (Nat × Nat)) (symbol : Nat) (bits : List Bool) : BitReading Nat :=
  match bases[symbol]? with
  | none => .error .corrupt
  | some (base, extra) => (readBits extra bits).map fun (n, bits) => (base + n, bits)

/-- The output with `n` more octets, each a copy of the one `distance` places before it. -/
def repeatOutput (distance : Nat) : Nat → Array UInt8 → Array UInt8
  | 0, out => out
  | n + 1, out =>
    -- A repetition may overlap its own output, so each octet is looked up anew.
    let b := if distance ≤ out.size then out.getD (out.size - distance) 0 else 0
    repeatOutput distance n (out.push b)

/-! ### Blocks -/

/-- Reads a block of symbols up to its end; each symbol takes at least one bit, so the number of
bits is fuel enough. -/
def readSymbols (literals distances : HuffmanCode) :
    Nat → Array UInt8 → List Bool → BitReading (Array UInt8)
  | 0, _, _ => .error .truncated
  | fuel + 1, out, bits =>
    match literals.decode bits with
    | .error e => .error e
    | .ok (symbol, bits) =>
      if symbol < 256 then readSymbols literals distances fuel (out.push (UInt8.ofNat symbol)) bits
      else if symbol = 256 then .ok (out, bits)
      else
        -- The bits that belong to the length come before the word of the distance.
        match readBased lengthBases (symbol - 257) bits with
        | .error e => .error e
        | .ok (length, bits) =>
          match distances.decode bits with
          | .error e => .error e
          | .ok (symbol, bits) =>
            match readBased distanceBases symbol bits with
            | .error e => .error e
            | .ok (distance, bits) =>
              readSymbols literals distances fuel (repeatOutput distance length out) bits

/-- Reads a block of octets as they are: their number, its complement, and the octets. -/
def readStored (out : Array UInt8) (bits : List Bool) : BitReading (Array UInt8) :=
  match readBits 32 (alignBits bits) with
  | .error e => .error e
  | .ok (n, bits) =>
    let size := n % 0x10000
    -- A number and its complement add up to all ones.
    if size + n / 0x10000 ≠ 0xffff then .error .corrupt
    else (readOctets size [] bits).map fun (bs, bits) => (out ++ bs.toArray, bits)

/-- The lengths of the words of the fixed code of literals and lengths. -/
def fixedLiteralLengths : List Nat :=
  List.replicate 144 8 ++ List.replicate 112 9 ++ List.replicate 24 7 ++ List.replicate 8 8

/-- The lengths of the words of the fixed code of distances. -/
def fixedDistanceLengths : List Nat :=
  List.replicate 32 5

/-- Reads a block in the fixed codes. -/
def readFixed (out : Array UInt8) (bits : List Bool) : BitReading (Array UInt8) :=
  match HuffmanCode.of? true fixedLiteralLengths, HuffmanCode.of? true fixedDistanceLengths with
  | some literals, some distances => readSymbols literals distances (bits.length + 1) out bits
  | _, _ => .error .corrupt

/-- The order in which the lengths of the code of lengths are given. -/
def lengthOrder : List Nat :=
  [16, 17, 18, 0, 8, 7, 9, 6, 10, 5, 11, 4, 12, 3, 13, 2, 14, 1, 15]

/-- Reads the lengths of the code of lengths, three bits each, as far as they are given. -/
def readLengthLengths : Nat → List Nat → List Bool → BitReading (List Nat)
  | 0, acc, bits => .ok (acc.reverse, bits)
  | n + 1, acc, bits =>
    match readBits 3 bits with
    | .ok (length, bits) => readLengthLengths n (length :: acc) bits
    | .error e => .error e

/-- The lengths in the order of their symbols. -/
def sortLengthLengths (given : List Nat) : List Nat :=
  (List.range 19).map fun symbol =>
    match lengthOrder.idxOf? symbol with
    | some place => given.getD place 0
    | none => 0

/-- Reads `wanted` lengths in the code of lengths; `acc` holds those read so far in reverse order.
The symbol 16 repeats the last length, 17 and 18 stand for runs of zeros. -/
def readLengths (code : HuffmanCode) (wanted : Nat) :
    Nat → List Nat → List Bool → BitReading (List Nat)
  | 0, _, _ => .error .truncated
  | fuel + 1, acc, bits =>
    if acc.length = wanted then .ok (acc.reverse, bits)
    else if wanted < acc.length then .error .corrupt
    else
      match code.decode bits with
      | .error e => .error e
      | .ok (symbol, bits) =>
        if symbol < 16 then readLengths code wanted fuel (symbol :: acc) bits
        else
          let (extra, least) :=
            if symbol = 16 then (2, 3) else if symbol = 17 then (3, 3) else (7, 11)
          match acc, symbol with
          | [], 16 => .error .corrupt
          | _, _ =>
            let length := if symbol = 16 then acc.headD 0 else 0
            match readBits extra bits with
            | .error e => .error e
            | .ok (n, bits) =>
              readLengths code wanted fuel (List.replicate (least + n) length ++ acc) bits

/-- Reads a block that gives its codes by the lengths of their words. -/
def readDynamic (out : Array UInt8) (bits : List Bool) :
    Except Fault (Array UInt8 × List Bool) := do
  let (sizes, bits) ← readBits 14 bits
  let literalCount := sizes % 32 + 257
  let distanceCount := sizes / 32 % 32 + 1
  let lengthCount := sizes / 1024 + 4
  -- Larger codes could be written down, but have words that stand for nothing.
  if 286 < literalCount || 30 < distanceCount then .error .corrupt
  let (given, bits) ← readLengthLengths lengthCount [] bits
  let code ← match HuffmanCode.of? false (sortLengthLengths given) with
    | some code => .ok code
    | none => .error .corrupt
  -- A run of equal lengths may go on from the first code into the second one.
  let wanted := literalCount + distanceCount
  let (lengths, bits) ← readLengths code wanted (wanted + 1) [] bits
  match HuffmanCode.of? true (lengths.drop literalCount),
      HuffmanCode.of? true (lengths.take literalCount) with
  | some distances, some literals => readSymbols literals distances (bits.length + 1) out bits
  | _, _ => .error .corrupt

/-- Reads one block after its mark of the last one. -/
def readBlock (out : Array UInt8) (bits : List Bool) : BitReading (Array UInt8) :=
  match readBits 2 bits with
  | .error e => .error e
  | .ok (0, bits) => readStored out bits
  | .ok (1, bits) => readFixed out bits
  | .ok (2, bits) => readDynamic out bits
  | .ok (_, _) => .error .corrupt

/-- Reads blocks up to the last one. Each takes bits, so their number is fuel enough. -/
def readBlocks : Nat → Array UInt8 → List Bool → BitReading (Array UInt8)
  | 0, _, _ => .error .truncated
  | _, _, [] => .error .truncated
  | fuel + 1, out, last :: bits =>
    match readBlock out bits with
    | .error e => .error e
    | .ok (out, bits) => if last then .ok (out, bits) else readBlocks fuel out bits

/-- The output of deflated data, and the bits after it. -/
def inflate (bits : List Bool) : BitReading (List UInt8) :=
  (readBlocks bits.length #[] bits).map fun (out, bits) => (out.toList, bits)

end ConferenceSync.Gzip
