import ConferenceSync.Text.Hexadecimal

/-!
# The BLAKE3 hash function

The input is cut into chunks of 1024 octets and each chunk into blocks of 64 octets. A compression
function chains the blocks of a chunk, and a binary tree over the chunks, whose left subtrees are
complete, gives the digest of 32 octets.

## Main definitions

* `Blake3.compress` — the compression function
* `Blake3.Node` — a chunk or an inner node of the tree, before its last compression
* `Blake3.digest` — the digest of an input
-/

namespace ConferenceSync.Digest.Blake3

/-- The eight words with which a chunk starts. -/
def initialWords : List UInt32 :=
  [0x6a09e667, 0xbb67ae85, 0x3c6ef372, 0xa54ff53a, 0x510e527f, 0x9b05688c, 0x1f83d9ab, 0x5be0cd19]

/-- The flag of the first block of a chunk. -/
def chunkStart : UInt32 := 1

/-- The flag of the last block of a chunk. -/
def chunkEnd : UInt32 := 2

/-- The flag of an inner node. -/
def parentFlag : UInt32 := 4

/-- The flag of the root of the tree. -/
def rootFlag : UInt32 := 8

/-- The order in which a round takes the words that the round before it took in order. -/
def permutation : List Nat := [2, 6, 3, 10, 7, 0, 4, 13, 1, 11, 12, 5, 9, 14, 15, 8]

/-- A word rotated to the right. -/
def rotateRight (w : UInt32) (k : UInt32) : UInt32 :=
  (w >>> k) ||| (w <<< (32 - k))

/-- Mixes two message words into four words of the state. -/
def mix (a b c d : Nat) (x y : UInt32) (state : Array UInt32) : Array UInt32 :=
  let va := state.getD a 0
  let vb := state.getD b 0
  let vc := state.getD c 0
  let vd := state.getD d 0
  let va := va + vb + x
  let vd := rotateRight (vd ^^^ va) 16
  let vc := vc + vd
  let vb := rotateRight (vb ^^^ vc) 12
  let va := va + vb + y
  let vd := rotateRight (vd ^^^ va) 8
  let vc := vc + vd
  let vb := rotateRight (vb ^^^ vc) 7
  (((state.setIfInBounds a va).setIfInBounds b vb).setIfInBounds c vc).setIfInBounds d vd

/-- The columns and then the diagonals of the state, as places of four words. -/
def quarters : List (Nat × Nat × Nat × Nat) :=
  [(0, 4, 8, 12), (1, 5, 9, 13), (2, 6, 10, 14), (3, 7, 11, 15),
    (0, 5, 10, 15), (1, 6, 11, 12), (2, 7, 8, 13), (3, 4, 9, 14)]

/-- One round: each quarter takes the next two message words. -/
def round (message : List UInt32) (state : Array UInt32) : Array UInt32 :=
  let rec go : List (Nat × Nat × Nat × Nat) → List UInt32 → Array UInt32 → Array UInt32
    | (a, b, c, d) :: rest, x :: y :: message, state => go rest message (mix a b c d x y state)
    | _, _, state => state
  go quarters message state

/-- The message words in the order of the next round. -/
def permute (message : List UInt32) : List UInt32 :=
  let words := message.toArray
  permutation.map fun i => words.getD i 0

/-- Rounds, each with the message permuted once more. -/
def rounds : Nat → List UInt32 → Array UInt32 → Array UInt32
  | 0, _, state => state
  | n + 1, message, state => rounds n (permute message) (round message state)

/-- The compression function: sixteen words from a chaining value of eight words, a message block
of sixteen, a counter, the number of octets of the block and flags. -/
def compress (chain message : List UInt32) (counter : Nat) (size flags : UInt32) : List UInt32 :=
  let state : List UInt32 := chain ++ initialWords.take 4 ++
    [UInt32.ofNat counter, UInt32.ofNat (counter / 0x100000000), size, flags]
  let mixed := (rounds 7 message state.toArray).toList
  let low := mixed.take 8
  let high := mixed.drop 8
  List.zipWith (· ^^^ ·) low high ++ List.zipWith (· ^^^ ·) high chain

/-- A word from its octets, the lowest first; missing octets are zero. -/
def wordOfOctets (bs : List UInt8) : UInt32 :=
  bs.foldr (fun b w => (w <<< 8) ||| b.toUInt32) 0

/-- Consecutive words of a block; `count` of them, padded with zeros. -/
def blockWords : Nat → List UInt8 → List UInt32
  | 0, _ => []
  | count + 1, bs => wordOfOctets (bs.take 4) :: blockWords count (bs.drop 4)

/-- The octets of a word, the lowest first. -/
def octetsOfWord (w : UInt32) : List UInt8 :=
  [w.toUInt8, (w >>> 8).toUInt8, (w >>> 16).toUInt8, (w >>> 24).toUInt8]

/-- The input of a last compression, which is done with or without the flag of the root: a chaining
value, a message block of `size` octets, the number of the chunk, and the flags of the block. -/
structure Node where
  chain : List UInt32
  message : List UInt32
  counter : Nat
  size : UInt32
  flags : UInt32

/-- The chaining value that a node hands to its parent. -/
def Node.value (n : Node) : List UInt32 :=
  (compress n.chain n.message n.counter n.size n.flags).take 8

/-- The 32 octets that a node gives as the root. -/
def Node.rootOctets (n : Node) : List UInt8 :=
  -- The root counts blocks of output, of which only the first is wanted.
  ((compress n.chain n.message 0 n.size (n.flags ||| rootFlag)).take 8).flatMap octetsOfWord

/-- The node of a chunk from one of its blocks on. At most `fuel` blocks follow it. -/
def chunkNode : Nat → Nat → List UInt32 → UInt32 → List UInt8 → Node
  | fuel, counter, chain, start, bs =>
    let block := bs.take 64
    let rest := bs.drop 64
    let message := blockWords 16 block
    let size := UInt32.ofNat block.length
    match fuel, rest with
    | fuel + 1, _ :: _ =>
      chunkNode fuel counter ((compress chain message counter size start).take 8) 0 rest
    | _, _ => ⟨chain, message, counter, size, start ||| chunkEnd⟩

/-- The nodes of the chunks of an input, from the chunk with number `counter` on. -/
def chunkNodes : Nat → Nat → List UInt8 → List Node
  | fuel, counter, bs =>
    let node := chunkNode 16 counter initialWords chunkStart (bs.take 1024)
    match fuel, bs.drop 1024 with
    | fuel + 1, b :: rest => node :: chunkNodes fuel (counter + 1) (b :: rest)
    | _, _ => [node]

/-- The inner node over two nodes. -/
def parent (left right : Node) : Node :=
  ⟨initialWords, left.value ++ right.value, 0, 64, parentFlag⟩

/-- The level of the tree above a level; a last node without a partner stays. -/
def pairUp : List Node → List Node
  | a :: b :: rest => parent a b :: pairUp rest
  | rest => rest

/-- The root over a level. Every step at least halves the level. -/
def rootNode : Nat → Node → List Node → Node
  | _, node, [] => node
  | 0, node, _ => node
  | fuel + 1, node, rest =>
    match pairUp (node :: rest) with
    | [] => node
    | node :: rest => rootNode fuel node rest

/-- The digest of an input, 32 octets. -/
def digest (input : List UInt8) : List UInt8 :=
  match chunkNodes input.length 0 input with
  | [] => []
  | node :: rest => (rootNode rest.length node rest).rootOctets

end ConferenceSync.Digest.Blake3
