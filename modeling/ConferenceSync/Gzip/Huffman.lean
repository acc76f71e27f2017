/-!
# Canonical Huffman codes

A code gives each symbol a word of at most fifteen bits. It is fixed by the lengths of the words
alone: shorter words come first, and words of one length are numbered in the order of their
symbols.

## Main definitions

* `Fault` — why compressed data cannot be unpacked
* `HuffmanCode` — a code, made from lengths by `HuffmanCode.of?`
* `HuffmanCode.decode` — reads a symbol from the front of a list of bits
-/

namespace ConferenceSync.Gzip

/-- Why compressed data cannot be unpacked. -/
inductive Fault where
  | truncated
  | corrupt
  deriving DecidableEq, Repr

/-- The result of reading from bits: the value, and the bits after it. -/
abbrev BitReading (α : Type) := Except Fault (α × List Bool)

/-- The number of bits in the longest word of a code. -/
def maxLength : Nat := 15

/-- A canonical Huffman code: how many words there are of each length from 1 to 15, and the symbols
in the order of their words. -/
structure HuffmanCode where
  counts : List Nat
  symbols : Array Nat

namespace HuffmanCode

/-- The places of the lengths equal to `n`. -/
def symbolsOfLength (lengths : List Nat) (n : Nat) : List Nat :=
  ((lengths.zipIdx).filter fun (l, _) => l == n).map Prod.snd

/-- How much of the space of all words a code fills, in units of words of fifteen bits. -/
def filled (counts : List Nat) : Nat :=
  counts.foldl (fun acc c => 2 * acc + c) 0

/-- The code with words of the given lengths, where length 0 means that the symbol has no word. A
code has to fill the whole space of words. Where `mayBeSparse` is set it may also have no word at
all, or a single one of one bit. -/
def of? (mayBeSparse : Bool) (lengths : List Nat) : Option HuffmanCode :=
  let groups := (List.range maxLength).map fun n => symbolsOfLength lengths (n + 1)
  let counts := groups.map List.length
  -- An overfull code fills more than the whole space, and is refused as well.
  let complete := filled counts == Nat.pow 2 maxLength
  let sparse := mayBeSparse && counts.headD 0 ≤ 1 && (counts.drop 1).all (· == 0)
  if complete || sparse then some ⟨counts, groups.flatten.toArray⟩ else none

/-- Reads a symbol. The words of the present length start at `first` and their symbols at
`index`; `word` is what has been read so far. -/
def decodeFrom (symbols : Array Nat) :
    List Nat → Nat → Nat → Nat → List Bool → BitReading Nat
  | [], _, _, _, _ => .error .corrupt
  | _ :: _, _, _, _, [] => .error .truncated
  | count :: counts, word, first, index, bit :: bits =>
    let word := 2 * word + bit.toNat
    -- No word is the start of another one, so the first length that fits is the right one.
    if word < first + count then
      match symbols[index + (word - first)]? with
      | some symbol => .ok (symbol, bits)
      | none => .error .corrupt
    -- In a sparse code what has been read may be the start of no word.
    else if counts.all (· == 0) then .error .corrupt
    else decodeFrom symbols counts word (2 * (first + count)) (index + count) bits

/-- Reads a symbol. -/
def decode (code : HuffmanCode) (bits : List Bool) : BitReading Nat :=
  decodeFrom code.symbols code.counts 0 0 0 bits

end HuffmanCode

end ConferenceSync.Gzip
