/-!
The BLAKE3 hash of some bytes, in its plain mode and with 32 bytes of output. The input is cut
into chunks of 1024 bytes and each chunk into blocks of 64; the chunks are the leaves of a binary
tree whose left part is always a full tree and at least as large as the right one.
-/

namespace ResourceGraph.Digest

/-- A chaining value. -/
abbrev Chain := Vector UInt32 8

/-- The words of a block. -/
abbrev Block := Vector UInt32 16

/-- The chaining value that everything starts from. -/
def initialChain : Chain :=
  #v[0x6a09e667, 0xbb67ae85, 0x3c6ef372, 0xa54ff53a, 0x510e527f, 0x9b05688c, 0x1f83d9ab, 0x5be0cd19]

/-- The flags of a compression, of which any number may be set. -/
def chunkStart : UInt32 := 1
def chunkEnd : UInt32 := 2
def parentNode : UInt32 := 4
def rootNode : UInt32 := 8

/-- Turns the bits of a word to the right. -/
def rotateRight (x : UInt32) (n : UInt32) : UInt32 :=
  (x >>> n) ||| (x <<< (32 - n))

/-- Mixes two words of the message into four words of the state. -/
def mix (v : Block) (a b c d : Fin 16) (x y : UInt32) : Block :=
  let v := v.set a (v[a] + v[b] + x)
  let v := v.set d (rotateRight (v[d] ^^^ v[a]) 16)
  let v := v.set c (v[c] + v[d])
  let v := v.set b (rotateRight (v[b] ^^^ v[c]) 12)
  let v := v.set a (v[a] + v[b] + y)
  let v := v.set d (rotateRight (v[d] ^^^ v[a]) 8)
  let v := v.set c (v[c] + v[d])
  v.set b (rotateRight (v[b] ^^^ v[c]) 7)

/-- One round: the columns of the state, then its diagonals. -/
def round (v m : Block) : Block :=
  let v := mix v 0 4 8 12 m[0] m[1]
  let v := mix v 1 5 9 13 m[2] m[3]
  let v := mix v 2 6 10 14 m[4] m[5]
  let v := mix v 3 7 11 15 m[6] m[7]
  let v := mix v 0 5 10 15 m[8] m[9]
  let v := mix v 1 6 11 12 m[10] m[11]
  let v := mix v 2 7 8 13 m[12] m[13]
  mix v 3 4 9 14 m[14] m[15]

/-- The message in the order of the next round. -/
def permute (m : Block) : Block :=
  #v[m[2], m[6], m[3], m[10], m[7], m[0], m[4], m[13], m[1], m[11], m[12], m[5], m[9], m[14],
     m[15], m[8]]

/-- Some rounds, with the message permuted between them. -/
def rounds : Nat → Block → Block → Block
  | 0, v, _ => v
  | n + 1, v, m => rounds n (round v m) (permute m)

/-- What a compression starts from. -/
structure Compression where
  chain : Chain
  block : Block
  counter : UInt64
  length : UInt32
  flags : UInt32

/-- The chaining value that a compression gives: the two halves of the final state, one over the
other. -/
def Compression.run (c : Compression) : Chain :=
  let k := initialChain
  let v : Block :=
    #v[c.chain[0], c.chain[1], c.chain[2], c.chain[3], c.chain[4], c.chain[5], c.chain[6],
       c.chain[7], k[0], k[1], k[2], k[3], c.counter.toUInt32, (c.counter >>> 32).toUInt32,
       c.length, c.flags]
  let w := rounds 7 v c.block
  #v[w[0] ^^^ w[8], w[1] ^^^ w[9], w[2] ^^^ w[10], w[3] ^^^ w[11], w[4] ^^^ w[12],
     w[5] ^^^ w[13], w[6] ^^^ w[14], w[7] ^^^ w[15]]

/-- Four bytes as a word, the lowest first. -/
def wordAt (bytes : List UInt8) (i : Nat) : UInt32 :=
  let byte (j : Nat) : UInt32 := (bytes.getD (4 * i + j) 0).toUInt32
  byte 0 ||| (byte 1 <<< 8) ||| (byte 2 <<< 16) ||| (byte 3 <<< 24)

/-- At most 64 bytes as a block, filled up with zeros. -/
def blockOf (bytes : List UInt8) : Block :=
  Vector.ofFn fun i => wordAt bytes i

/-- Cuts a list into pieces of `n` elements; the last one may be shorter. -/
def pieces (n : Nat) (xs : List α) : List (List α) :=
  if xs.length ≤ n ∨ n = 0 then [xs]
  else xs.take n :: pieces n (xs.drop n)
termination_by xs.length
decreasing_by simp; omega

/-- Compresses the blocks of a chunk in turn, and leaves the last compression to be run. -/
def chunkBlocks (counter : UInt64) (start : UInt32) (chain : Chain) :
    List (List UInt8) → Compression
  | [] => ⟨chain, blockOf [], counter, 0, start ||| chunkEnd⟩
  | [last] => ⟨chain, blockOf last, counter, last.length.toUInt32, start ||| chunkEnd⟩
  | bytes :: rest =>
    let c : Compression := ⟨chain, blockOf bytes, counter, 64, start⟩
    chunkBlocks counter 0 c.run rest

/-- The compression that closes a chunk. -/
def chunkNode (counter : Nat) (bytes : List UInt8) : Compression :=
  chunkBlocks counter.toUInt64 chunkStart initialChain (pieces 64 bytes)

/-- The compression that joins two subtrees. -/
def joinNode (left right : Compression) : Compression :=
  ⟨initialChain, (left.run ++ right.run).cast rfl, 0, 64, parentNode⟩

/-- The compression at the top of the tree over some chunks, the first of which is number
`counter`. The left part holds the largest power of two that leaves something for the right. -/
def treeNode (counter : Nat) (chunks : List (List UInt8)) : Compression :=
  match chunks with
  | [] => chunkNode counter []
  | [bytes] => chunkNode counter bytes
  | first :: second :: rest =>
    let all := first :: second :: rest
    let left := Nat.pow 2 (rest.length + 1).log2
    joinNode (treeNode counter (all.take left)) (treeNode (counter + left) (all.drop left))
termination_by chunks.length
decreasing_by
  · have h : Nat.pow 2 (rest.length + 1).log2 ≤ rest.length + 1 := Nat.log2_self_le (by omega)
    simp only [List.length_take, List.length_cons]; omega
  · have h : 0 < Nat.pow 2 (rest.length + 1).log2 := Nat.two_pow_pos _
    simp only [List.length_drop, List.length_cons]; omega

/-- The words of the hash. -/
def blake3 (bytes : List UInt8) : Chain :=
  let top := treeNode 0 (pieces 1024 bytes)
  { top with flags := top.flags ||| rootNode }.run

/-- A byte as two hexadecimal digits. -/
def hexByte (b : UInt32) : List Char :=
  [Nat.digitChar (b.toNat / 16 % 16), Nat.digitChar (b.toNat % 16)]

/-- The digits of a word, its lowest byte first. -/
def hexWord (w : UInt32) : List Char :=
  hexByte w ++ hexByte (w >>> 8) ++ hexByte (w >>> 16) ++ hexByte (w >>> 24)

/-- The hash in hexadecimal digits. -/
def blake3Hex (bytes : List UInt8) : String :=
  String.ofList ((blake3 bytes).toList.flatMap hexWord)

end ResourceGraph.Digest
