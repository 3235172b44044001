/-!
# BLAKE3

The hash function by which elements get their ids. Bytes are cut into chunks of 1024 bytes and chunks into blocks of 64;
the chunks are the leaves of a binary tree whose left branches are complete.
-/

namespace CodeAtlas.Blake3

/-- The words of a compression. -/
abbrev Words (n : Nat) := Vector UInt32 n

/-- The words that hashing starts from. -/
def initial : Words 8 :=
  #v[0x6A09E667, 0xBB67AE85, 0x3C6EF372, 0xA54FF53A, 0x510E527F, 0x9B05688C, 0x1F83D9AB, 0x5BE0CD19]

/-- Marks the first block of a chunk. -/
def chunkStart : UInt32 := 1

/-- Marks the last block of a chunk. -/
def chunkEnd : UInt32 := 2

/-- Marks an inner node of the tree. -/
def parent : UInt32 := 4

/-- Marks the root of the tree. -/
def root : UInt32 := 8

/-- Rotates a word to the right by less than its width. -/
def rotate (x n : UInt32) : UInt32 := (x >>> n) ||| (x <<< (32 - n))

/-- Mixes two message words into four state words. -/
def mix (v : Words 16) (a b c d : Fin 16) (x y : UInt32) : Words 16 :=
  let va := v[a] + v[b] + x
  let vd := rotate (v[d] ^^^ va) 16
  let vc := v[c] + vd
  let vb := rotate (v[b] ^^^ vc) 12
  let va := va + vb + y
  let vd := rotate (vd ^^^ va) 8
  let vc := vc + vd
  let vb := rotate (vb ^^^ vc) 7
  (((v.set a va).set b vb).set c vc).set d vd

/-- Mixes the columns and then the diagonals of the state. -/
def round (v m : Words 16) : Words 16 :=
  let v := mix v 0 4 8 12 m[0] m[1]
  let v := mix v 1 5 9 13 m[2] m[3]
  let v := mix v 2 6 10 14 m[4] m[5]
  let v := mix v 3 7 11 15 m[6] m[7]
  let v := mix v 0 5 10 15 m[8] m[9]
  let v := mix v 1 6 11 12 m[10] m[11]
  let v := mix v 2 7 8 13 m[12] m[13]
  mix v 3 4 9 14 m[14] m[15]

/-- The order of the message words in the next round. -/
def permute (m : Words 16) : Words 16 :=
  #v[m[2], m[6], m[3], m[10], m[7], m[0], m[4], m[13], m[1], m[11], m[12], m[5], m[9], m[14], m[15], m[8]]

/-- The given number of rounds. -/
def rounds : Nat → Words 16 → Words 16 → Words 16
  | 0, v, _ => v
  | n + 1, v, m => rounds n (round v m) (permute m)

/-- What a node of the tree hands to the compression. -/
structure Output where
  chaining : Words 8
  block : Words 16
  counter : UInt64
  length : UInt32
  flags : UInt32

/-- Compresses a node, with further flags. -/
def Output.compress (o : Output) (counter : UInt64) (flags : UInt32) : Words 8 :=
  let key := o.chaining
  let v : Words 16 :=
    #v[key[0], key[1], key[2], key[3], key[4], key[5], key[6], key[7], initial[0], initial[1], initial[2], initial[3],
      counter.toUInt32, (counter >>> 32).toUInt32, o.length, o.flags ||| flags]
  let s := rounds 7 v o.block
  #v[s[0] ^^^ s[8], s[1] ^^^ s[9], s[2] ^^^ s[10], s[3] ^^^ s[11], s[4] ^^^ s[12], s[5] ^^^ s[13], s[6] ^^^ s[14],
    s[7] ^^^ s[15]]

/-- The value that a node passes up the tree. -/
def Output.value (o : Output) : Words 8 := o.compress o.counter 0

/-- Four bytes as a word, lowest byte first; missing bytes are zero. -/
def word (bytes : List UInt8) (i : Nat) : UInt32 :=
  let byte := fun k => (bytes.getD (4 * i + k) 0).toUInt32
  byte 0 ||| (byte 1 <<< 8) ||| (byte 2 <<< 16) ||| (byte 3 <<< 24)

/-- Up to 64 bytes as words. -/
def blockOf (bytes : List UInt8) : Words 16 := Vector.ofFn fun i => word bytes i.val

/-- The node of a chunk of which some blocks were read: `blocks` bounds the blocks still to come. -/
def chunkFrom (counter : UInt64) : (blocks : Nat) → (chaining : Words 8) → (flags : UInt32) → List UInt8 → Output
  | 0, chaining, flags, bytes => ⟨chaining, blockOf bytes, counter, bytes.length.toUInt32, flags ||| chunkEnd⟩
  | blocks + 1, chaining, flags, bytes =>
    if bytes.length ≤ 64 then ⟨chaining, blockOf bytes, counter, bytes.length.toUInt32, flags ||| chunkEnd⟩
    else
      let block : Output := ⟨chaining, blockOf (bytes.take 64), counter, 64, flags⟩
      chunkFrom counter blocks block.value 0 (bytes.drop 64)

/-- The node of a chunk. -/
def chunk (counter : UInt64) (bytes : List UInt8) : Output := chunkFrom counter 16 initial chunkStart bytes

/-- The number of bytes in the left branch above some bytes: the largest power of two of chunks that leaves a rest. -/
def leftLength (n : Nat) : Nat := 1024 * Nat.pow 2 ((n - 1) / 1024).log2

theorem leftLength_pos (n : Nat) : 0 < leftLength n := by
  unfold leftLength
  have : 0 < Nat.pow 2 ((n - 1) / 1024).log2 := Nat.two_pow_pos _
  omega

theorem leftLength_lt {n : Nat} (h : 1024 < n) : leftLength n < n := by
  have h0 : (n - 1) / 1024 ≠ 0 := by omega
  have : Nat.pow 2 ((n - 1) / 1024).log2 ≤ (n - 1) / 1024 := Nat.log2_self_le h0
  unfold leftLength
  omega

/-- The node of the tree over some bytes, the first of them in the chunk with the given number. -/
def tree (counter : UInt64) (bytes : List UInt8) : Output :=
  if _h : bytes.length ≤ 1024 then chunk counter bytes
  else
    let k := leftLength bytes.length
    let left := tree counter (bytes.take k)
    let right := tree (counter + (k / 1024).toUInt64) (bytes.drop k)
    ⟨initial, (left.value ++ right.value : Words 16), 0, 64, parent⟩
termination_by bytes.length
decreasing_by
  · have := leftLength_lt (Nat.lt_of_not_le _h)
    simp only [List.length_take]; omega
  · have := leftLength_pos bytes.length
    simp only [List.length_drop]; omega

/-- The first eight words of the hash. -/
def hash (bytes : List UInt8) : Words 8 := (tree 0 bytes).compress 0 root

/-- A hexadecimal digit. -/
def hexDigit (n : UInt32) : Char := Nat.digitChar n.toNat

/-- The bytes of a word in hexadecimal, lowest byte first. -/
def hexWord (w : UInt32) : List Char :=
  ([4, 0, 12, 8, 20, 16, 28, 24] : List UInt32).map fun shift => hexDigit ((w >>> shift) &&& 15)

/-- The hash in hexadecimal. -/
def hexHash (bytes : List UInt8) : List Char := (hash bytes).toList.flatMap hexWord

end CodeAtlas.Blake3
