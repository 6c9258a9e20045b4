/-!
# The BLAKE3 hash

Content fingerprints are BLAKE3 digests of 32 bytes, in the plain hashing mode. The input is cut
into chunks of 1024 bytes and each chunk into blocks of 64; the blocks of a chunk are chained by a
compression function, and the chunks are the leaves of a binary tree whose left subtrees are
complete. The last compression of the whole tree carries a flag of its own, so a `Node` keeps a
compression that is still to be done.

## Main definitions

* `Blake3.compress` — the compression function
* `Blake3.Node` — a compression that is still to be done
* `Blake3.subtree` — the node of a run of chunks
* `Blake3.digest`, `Blake3.hex` — the digest and its lower-case hexadecimal text
-/

namespace Resilience.Blake3

/-- Eight words passed from one compression to the next. -/
abbrev Chain := Vector UInt32 8

/-- The sixteen words of a block, and also the working state of a compression. -/
abbrev Block := Vector UInt32 16

def initialChain : Chain :=
  #v[0x6a09e667, 0xbb67ae85, 0x3c6ef372, 0xa54ff53a, 0x510e527f, 0x9b05688c, 0x1f83d9ab, 0x5be0cd19]

def flagChunkStart : UInt32 := 1
def flagChunkEnd : UInt32 := 2
def flagParent : UInt32 := 4
def flagRoot : UInt32 := 8

def blockSize : Nat := 64
def chunkSize : Nat := 1024

/-- Rotation of a word to the right, for counts from 1 to 31. -/
def rotateRight (word count : UInt32) : UInt32 := (word >>> count) ||| (word <<< (32 - count))

/-- Mixes two message words into four words of the state. -/
def mix (state : Block) (a b c d : Fin 16) (first second : UInt32) : Block :=
  let va := state[a] + state[b] + first
  let vd := rotateRight (state[d] ^^^ va) 16
  let vc := state[c] + vd
  let vb := rotateRight (state[b] ^^^ vc) 12
  let va := va + vb + second
  let vd := rotateRight (vd ^^^ va) 8
  let vc := vc + vd
  let vb := rotateRight (vb ^^^ vc) 7
  (((state.set a va).set b vb).set c vc).set d vd

/-- One round mixes the whole message into the columns and then the diagonals of the state. -/
def round (state message : Block) : Block :=
  let state := mix state 0 4 8 12 message[0] message[1]
  let state := mix state 1 5 9 13 message[2] message[3]
  let state := mix state 2 6 10 14 message[4] message[5]
  let state := mix state 3 7 11 15 message[6] message[7]
  let state := mix state 0 5 10 15 message[8] message[9]
  let state := mix state 1 6 11 12 message[10] message[11]
  let state := mix state 2 7 8 13 message[12] message[13]
  mix state 3 4 9 14 message[14] message[15]

/-- The order in which the next round reads the message. -/
def permute (m : Block) : Block :=
  #v[m[2], m[6], m[3], m[10], m[7], m[0], m[4], m[13],
     m[1], m[11], m[12], m[5], m[9], m[14], m[15], m[8]]

/-- Some rounds, with the message permuted between them. -/
def rounds : Nat → Block → Block → Block
  | 0, state, _ => state
  | count + 1, state, message => rounds count (round state message) (permute message)

/-- The compression function, seven rounds and a fold of the state's two halves. -/
def compress (chain : Chain) (block : Block) (counter : UInt64) (length flags : UInt32) : Chain :=
  let state : Block :=
    -- the last four words are the counter, low word first, the length and the flags
    #v[chain[0], chain[1], chain[2], chain[3], chain[4], chain[5], chain[6], chain[7],
       initialChain[0], initialChain[1], initialChain[2], initialChain[3],
       counter.toUInt32, (counter >>> 32).toUInt32, length, flags]
  let state := rounds 7 state block
  #v[state[0] ^^^ state[8], state[1] ^^^ state[9], state[2] ^^^ state[10], state[3] ^^^ state[11],
     state[4] ^^^ state[12], state[5] ^^^ state[13], state[6] ^^^ state[14], state[7] ^^^ state[15]]

/-- A compression that is still to be done. -/
structure Node where
  chain : Chain
  block : Block
  counter : UInt64
  length : UInt32
  flags : UInt32

/-- The result of a node inside the tree. -/
def Node.value (node : Node) : Chain :=
  compress node.chain node.block node.counter node.length node.flags

/-- The result of a node that is the whole tree. -/
def Node.rootValue (node : Node) : Chain :=
  compress node.chain node.block 0 node.length (node.flags ||| flagRoot)

/-- A byte of the input, and zero beyond its end. -/
def byteAt (input : ByteArray) (position : Nat) : UInt32 :=
  if h : position < input.size then input[position].toUInt32 else 0

/-- The little-endian word at a position. -/
def wordAt (input : ByteArray) (position : Nat) : UInt32 :=
  byteAt input position ||| (byteAt input (position + 1) <<< 8) |||
    (byteAt input (position + 2) <<< 16) ||| (byteAt input (position + 3) <<< 24)

/-- The block at a position, filled up with zeros. -/
def blockAt (input : ByteArray) (position : Nat) : Block :=
  Vector.ofFn fun i : Fin 16 => wordAt input (position + 4 * i.val)

/-- Chains full blocks of a chunk from the one numbered `index` on. -/
def chainBlocks (input : ByteArray) (start : Nat) (counter : UInt64) :
    (count index : Nat) → Chain → Chain
  | 0, _, chain => chain
  | count + 1, index, chain =>
    let flags := if index = 0 then flagChunkStart else 0
    let block := blockAt input (start + blockSize * index)
    chainBlocks input start counter count (index + 1)
      (compress chain block counter blockSize.toUInt32 flags)

/-- The last compression of the chunk numbered `index`. An empty input has one empty chunk. -/
def chunkNode (input : ByteArray) (index : Nat) : Node :=
  let start := chunkSize * index
  let length := min chunkSize (input.size - start)
  let before := (length - 1) / blockSize
  let counter := index.toUInt64
  { chain := chainBlocks input start counter before 0 initialChain
    block := blockAt input (start + blockSize * before)
    counter
    length := (length - blockSize * before).toUInt32
    flags := flagChunkEnd ||| (if before = 0 then flagChunkStart else 0) }

/-- The node above two subtrees. -/
def parentNode (left right : Chain) : Node where
  chain := initialChain
  block := left ++ right
  counter := 0
  length := blockSize.toUInt32
  flags := flagParent

/-- The node of `count` chunks from the one numbered `first` on. The left subtree takes the
greatest power of two that leaves something for the right one. -/
def subtree (input : ByteArray) (first count : Nat) : Node :=
  if h : count ≤ 1 then chunkNode input first
  else
    let left := 2 ^ Nat.log2 (count - 1)
    have positive : 0 < left := Nat.two_pow_pos _
    have smaller : left < count := by
      have : 2 ^ Nat.log2 (count - 1) ≤ count - 1 := Nat.log2_self_le (by omega)
      omega
    parentNode (subtree input first left).value (subtree input (first + left) (count - left)).value
  termination_by count
  decreasing_by all_goals omega

/-- The bytes of a word, least significant first. -/
def wordBytes (word : UInt32) : List UInt8 :=
  [word.toUInt8, (word >>> 8).toUInt8, (word >>> 16).toUInt8, (word >>> 24).toUInt8]

/-- The digest of an input, 32 bytes. -/
def digest (input : ByteArray) : List UInt8 :=
  let chunks := max 1 ((input.size + (chunkSize - 1)) / chunkSize)
  (subtree input 0 chunks).rootValue.toList.flatMap wordBytes

/-- The digit of a number below sixteen. -/
def hexDigit (n : Nat) : Char := Nat.digitChar (n % 16)

/-- The hexadecimal text of a digest, lower-case. -/
def hex (input : ByteArray) : String :=
  String.ofList ((digest input).flatMap fun byte =>
    [hexDigit (byte.toNat / 16), hexDigit byte.toNat])

end Resilience.Blake3
