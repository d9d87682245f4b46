/-!
The BLAKE3 digest of a byte string, 32 bytes long. Input is cut into chunks of 1024 bytes; chunks
are the leaves of a binary tree whose left side is always a full tree with the largest power of two
of chunks that leaves something for the right side.
-/
namespace Silhouette.Blake3

/-- Eight words: what a node hands to its parent. -/
structure Chain where
  (a b c d e f g h : UInt32)
  deriving DecidableEq, Repr, Inhabited

/-- Sixteen words: a block of 64 bytes, or the state of the compression. -/
structure Block where
  (w0 w1 w2 w3 w4 w5 w6 w7 w8 w9 w10 w11 w12 w13 w14 w15 : UInt32)
  deriving DecidableEq, Repr, Inhabited

/-- The starting chain of every chunk. -/
def start : Chain :=
  ⟨0x6a09e667, 0xbb67ae85, 0x3c6ef372, 0xa54ff53a, 0x510e527f, 0x9b05688c, 0x1f83d9ab, 0x5be0cd19⟩

/-- Marks the first block of a chunk. -/
def chunkStart : UInt32 := 1
/-- Marks the last block of a chunk. -/
def chunkEnd : UInt32 := 2
/-- Marks a node with two children. -/
def parent : UInt32 := 4
/-- Marks the node that yields the digest. -/
def root : UInt32 := 8

/-- Rotation to the right. -/
@[inline] def rotate (x n : UInt32) : UInt32 := (x >>> n) ||| (x <<< (32 - n))

/-- The order in which the next round reads the message words. -/
def permute (m : Block) : Block :=
  ⟨m.w2, m.w6, m.w3, m.w10, m.w7, m.w0, m.w4, m.w13,
   m.w1, m.w11, m.w12, m.w5, m.w9, m.w14, m.w15, m.w8⟩

/-- Mixes two message words into four words of the state. -/
@[inline] def mix (a b c d x y : UInt32) : UInt32 × UInt32 × UInt32 × UInt32 :=
  let a := a + b + x
  let d := rotate (d ^^^ a) 16
  let c := c + d
  let b := rotate (b ^^^ c) 12
  let a := a + b + y
  let d := rotate (d ^^^ a) 8
  let c := c + d
  let b := rotate (b ^^^ c) 7
  (a, b, c, d)

/-- One round: the four columns, then the four diagonals. -/
def round (s m : Block) : Block :=
  let (v0, v4, v8, v12) := mix s.w0 s.w4 s.w8 s.w12 m.w0 m.w1
  let (v1, v5, v9, v13) := mix s.w1 s.w5 s.w9 s.w13 m.w2 m.w3
  let (v2, v6, v10, v14) := mix s.w2 s.w6 s.w10 s.w14 m.w4 m.w5
  let (v3, v7, v11, v15) := mix s.w3 s.w7 s.w11 s.w15 m.w6 m.w7
  let (v0, v5, v10, v15) := mix v0 v5 v10 v15 m.w8 m.w9
  let (v1, v6, v11, v12) := mix v1 v6 v11 v12 m.w10 m.w11
  let (v2, v7, v8, v13) := mix v2 v7 v8 v13 m.w12 m.w13
  let (v3, v4, v9, v14) := mix v3 v4 v9 v14 m.w14 m.w15
  ⟨v0, v1, v2, v3, v4, v5, v6, v7, v8, v9, v10, v11, v12, v13, v14, v15⟩

/-- Some rounds, the message permuted between them. -/
def rounds : Nat → Block → Block → Block
  | 0, s, _ => s
  | n + 1, s, m => rounds n (round s m) (permute m)

/-- A node of the tree before it is compressed. -/
structure Node where
  chain : Chain
  block : Block
  counter : UInt64
  size : UInt32
  flags : UInt32
  deriving DecidableEq, Repr

/-- The chain that a node hands on: seven rounds, then both halves of the state together. -/
def Node.compress (n : Node) : Chain :=
  let c := n.chain
  let s := rounds 7
    ⟨c.a, c.b, c.c, c.d, c.e, c.f, c.g, c.h, start.a, start.b, start.c, start.d,
     n.counter.toUInt32, (n.counter >>> 32).toUInt32, n.size, n.flags⟩ n.block
  ⟨s.w0 ^^^ s.w8, s.w1 ^^^ s.w9, s.w2 ^^^ s.w10, s.w3 ^^^ s.w11,
   s.w4 ^^^ s.w12, s.w5 ^^^ s.w13, s.w6 ^^^ s.w14, s.w7 ^^^ s.w15⟩

/-- The byte at a place below `stop`, and zero from there on. -/
@[inline] def byteAt (bytes : ByteArray) (stop i : Nat) : UInt32 :=
  if _ : i < bytes.size then (if i < stop then bytes[i].toUInt32 else 0) else 0

/-- The word that four bytes make, the lowest first. -/
@[inline] def wordAt (bytes : ByteArray) (stop i : Nat) : UInt32 :=
  byteAt bytes stop i ||| (byteAt bytes stop (i + 1) <<< 8) |||
    (byteAt bytes stop (i + 2) <<< 16) ||| (byteAt bytes stop (i + 3) <<< 24)

/-- The block that begins at a place, filled up with zeros. -/
def blockAt (bytes : ByteArray) (stop i : Nat) : Block :=
  let w := fun k => wordAt bytes stop (i + 4 * k)
  ⟨w 0, w 1, w 2, w 3, w 4, w 5, w 6, w 7, w 8, w 9, w 10, w 11, w 12, w 13, w 14, w 15⟩

/-- The last block of the chunk that ends at `stop`, all blocks before it compressed; `blocks` is the
number of blocks that follow the one at `i`. -/
def chunkFrom (bytes : ByteArray) (stop : Nat) (counter : UInt64) :
    Nat → Nat → Chain → UInt32 → Node
  | 0, i, chain, flags =>
    ⟨chain, blockAt bytes stop i, counter, (stop - i).toUInt32, flags ||| chunkEnd⟩
  | blocks + 1, i, chain, flags =>
    let node : Node := ⟨chain, blockAt bytes stop i, counter, 64, flags⟩
    chunkFrom bytes stop counter blocks (i + 64) node.compress 0

/-- The node of one chunk of at most 1024 bytes. -/
def chunk (bytes : ByteArray) (first size : Nat) (counter : Nat) : Node :=
  chunkFrom bytes (first + size) counter.toUInt64 ((size - 1) / 64) first start chunkStart

/-- The node over two children. -/
def join (l r : Chain) : Node :=
  ⟨start, ⟨l.a, l.b, l.c, l.d, l.e, l.f, l.g, l.h, r.a, r.b, r.c, r.d, r.e, r.f, r.g, r.h⟩, 0, 64,
    parent⟩

/-- How many bytes go to the left of a tree over more than one chunk. -/
def leftSize (size : Nat) : Nat := 1024 * Nat.pow 2 ((size - 1) / 1024).log2

theorem leftSize_lt {size : Nat} (h : 1024 < size) : leftSize size < size := by
  have : Nat.pow 2 ((size - 1) / 1024).log2 ≤ (size - 1) / 1024 := Nat.log2_self_le (by omega)
  unfold leftSize
  omega

theorem leftSize_pos (size : Nat) : 0 < leftSize size := by
  have : 0 < Nat.pow 2 ((size - 1) / 1024).log2 := Nat.two_pow_pos _
  unfold leftSize
  omega

/-- The node over `size` bytes from `first`; `counter` is the number of the first chunk. -/
def tree (bytes : ByteArray) (first size counter : Nat) : Node :=
  if h : 1024 < size then
    let left := leftSize size
    join (tree bytes first left counter).compress
      (tree bytes (first + left) (size - left) (counter + left / 1024)).compress
  else chunk bytes first size counter
  termination_by size
  decreasing_by
    · exact leftSize_lt h
    · have := leftSize_pos size
      omega

/-- The four bytes of a word, the lowest first. -/
def wordBytes (w : UInt32) : List UInt8 :=
  [w.toUInt8, (w >>> 8).toUInt8, (w >>> 16).toUInt8, (w >>> 24).toUInt8]

/-- The bytes of a chain. -/
def Chain.bytes (c : Chain) : List UInt8 :=
  wordBytes c.a ++ wordBytes c.b ++ wordBytes c.c ++ wordBytes c.d ++
    wordBytes c.e ++ wordBytes c.f ++ wordBytes c.g ++ wordBytes c.h

theorem Chain.length_bytes (c : Chain) : c.bytes.length = 32 := rfl

/-- The digest of some bytes. -/
def digest (bytes : ByteArray) : List UInt8 :=
  let top := tree bytes 0 bytes.size 0
  Chain.bytes (Node.compress { top with flags := top.flags ||| root })

theorem length_digest (bytes : ByteArray) : (digest bytes).length = 32 := rfl

end Silhouette.Blake3
