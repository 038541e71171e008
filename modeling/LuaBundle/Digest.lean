/-! # Content digests

A digest is the BLAKE3 hash of some bytes. The bytes are cut into chunks of 1024 and the chunks into
blocks of 64; each chunk is compressed block by block, and the chunks' values are joined pairwise in
a binary tree whose left side is always a full tree.
-/

namespace LuaBundle.Digest

/-- Sixteen words. -/
abbrev Words := Vector UInt32 16

/-- Eight words that stand for all bytes so far. -/
abbrev Chain := Vector UInt32 8

/-- The chain that every chunk begins with. -/
def initialChain : Chain :=
  #v[0x6A09E667, 0xBB67AE85, 0x3C6EF372, 0xA54FF53A, 0x510E527F, 0x9B05688C, 0x1F83D9AB,
    0x5BE0CD19]

/-- Where each word of a block goes between two rounds. -/
def permutation : Vector (Fin 16) 16 :=
  #v[2, 6, 3, 10, 7, 0, 4, 13, 1, 11, 12, 5, 9, 14, 15, 8]

/-- What a block is: the first or last of its chunk, a join of two trees, the root. -/
structure Flags where
  chunkStart : Bool := false
  chunkEnd : Bool := false
  parent : Bool := false
  root : Bool := false

/-- Flags as a word. -/
def Flags.word (flags : Flags) : UInt32 :=
  (if flags.chunkStart then 1 else 0) + (if flags.chunkEnd then 2 else 0) +
    (if flags.parent then 4 else 0) + (if flags.root then 8 else 0)

/-- Rotate a word to the right. -/
def rotateRight (x : UInt32) (n : UInt32) : UInt32 :=
  (x >>> n) ||| (x <<< (32 - n))

/-- Mix two words of a block into a column or a diagonal of the state. -/
def mix (state : Words) (a b c d : Fin 16) (x y : UInt32) : Words :=
  let va := state[a] + state[b] + x
  let vd := rotateRight (state[d] ^^^ va) 16
  let vc := state[c] + vd
  let vb := rotateRight (state[b] ^^^ vc) 12
  let va := va + vb + y
  let vd := rotateRight (vd ^^^ va) 8
  let vc := vc + vd
  let vb := rotateRight (vb ^^^ vc) 7
  (((state.set a va).set b vb).set c vc).set d vd

/-- Mix all words of a block into the state: four columns, then four diagonals. -/
def round (state : Words) (block : Words) : Words :=
  let state := mix state 0 4 8 12 block[0] block[1]
  let state := mix state 1 5 9 13 block[2] block[3]
  let state := mix state 2 6 10 14 block[4] block[5]
  let state := mix state 3 7 11 15 block[6] block[7]
  let state := mix state 0 5 10 15 block[8] block[9]
  let state := mix state 1 6 11 12 block[10] block[11]
  let state := mix state 2 7 8 13 block[12] block[13]
  mix state 3 4 9 14 block[14] block[15]

/-- Some rounds, with the block's words permuted between them. -/
def rounds : Nat → Words → Words → Words
  | 0, state, _ => state
  | n + 1, state, block =>
    rounds n (round state block) (permutation.map fun i => block[i])

/-- Compress a block into a chain. -/
def compress (chain : Chain) (block : Words) (counter : UInt64) (length : UInt32)
    (flags : Flags) : Chain :=
  let state : Words :=
    #v[chain[0], chain[1], chain[2], chain[3], chain[4], chain[5], chain[6], chain[7],
      0x6A09E667, 0xBB67AE85, 0x3C6EF372, 0xA54FF53A,
      counter.toUInt32, (counter >>> 32).toUInt32, length, flags.word]
  let state := rounds 7 state block
  #v[state[0] ^^^ state[8], state[1] ^^^ state[9], state[2] ^^^ state[10],
    state[3] ^^^ state[11], state[4] ^^^ state[12], state[5] ^^^ state[13],
    state[6] ^^^ state[14], state[7] ^^^ state[15]]

/-- The byte at a place, or zero behind the last. -/
def byteAt (bytes : ByteArray) (i : Nat) : UInt32 :=
  match bytes[i]? with
  | some byte => byte.toUInt32
  | none => 0

/-- Sixteen words from 64 bytes, the lowest byte first. Bytes from `stop` on count as zero. -/
def blockAt (bytes : ByteArray) (start stop : Nat) : Words :=
  let byte (i : Nat) : UInt32 := if i < stop then byteAt bytes i else 0
  Vector.ofFn fun word =>
    let i := start + 4 * word.val
    byte i ||| (byte (i + 1) <<< 8) ||| (byte (i + 2) <<< 16) ||| (byte (i + 3) <<< 24)

/-- Compress the blocks of a chunk that begin at `start`. -/
def chunkFrom (bytes : ByteArray) (start stop : Nat) (index : Nat) (root first : Bool)
    (chain : Chain) : Chain :=
  if _more : start + 64 < stop then
    let next := compress chain (blockAt bytes start stop) (UInt64.ofNat index) 64
      { chunkStart := first }
    chunkFrom bytes (start + 64) stop index root false next
  else
    compress chain (blockAt bytes start stop) (UInt64.ofNat index)
      (UInt32.ofNat (stop - start)) { chunkStart := first, chunkEnd := true, root := root }
termination_by stop - start

/-- The value of the chunk with an index. -/
def chunk (bytes : ByteArray) (index : Nat) (root : Bool) : Chain :=
  let start := 1024 * index
  chunkFrom bytes start (min bytes.size (start + 1024)) index root true initialChain

/-- Join the values of two trees. -/
def join (left right : Chain) (root : Bool) : Chain :=
  compress initialChain (left ++ right) 0 64 { parent := true, root := root }

/-- The value of a tree over some chunks, the first of which has the given index. -/
def tree (bytes : ByteArray) (index count : Nat) (root : Bool) : Chain :=
  if _leaf : count ≤ 1 then chunk bytes index root
  else
    let left := Nat.pow 2 (count - 1).log2
    join (tree bytes index left false) (tree bytes (index + left) (count - left) false) root
termination_by count
decreasing_by
  · have : Nat.pow 2 (count - 1).log2 ≤ count - 1 := Nat.log2_self_le (by omega)
    omega
  · have : 0 < Nat.pow 2 (count - 1).log2 := Nat.two_pow_pos _
    omega

/-- Two digits in base sixteen. -/
def hexByte (n : UInt32) : List Char :=
  [Nat.digitChar (n.toNat / 16 % 16), Nat.digitChar (n.toNat % 16)]

/-- A word in base sixteen, the lowest byte first. -/
def hexWord (word : UInt32) : List Char :=
  hexByte (word &&& 255) ++ hexByte ((word >>> 8) &&& 255) ++ hexByte ((word >>> 16) &&& 255) ++
    hexByte ((word >>> 24) &&& 255)

/-- The digest of some bytes, in base sixteen. -/
def ofBytes (bytes : ByteArray) : String :=
  let value := tree bytes 0 ((bytes.size + 1023) / 1024) true
  String.ofList (value.toList.flatMap hexWord)

/-- The digest of a text. -/
def ofText (text : String) : String :=
  ofBytes text.toUTF8

end LuaBundle.Digest
