import SpacedReview.Digest.Hex

/-!
# The BLAKE3 hash

The input is cut into chunks of 1024 bytes, each hashed block by block, and the chunks are the
leaves of a binary tree whose inner nodes hash the chaining values of their two children. A left
subtree always holds the largest power of two of chunks that leaves some for the right, which is
the tree that arises when neighbours are joined in pairs, level by level, and an odd one out moves
up as it is. The node at the root is hashed once more with a mark of its own.
-/

namespace SpacedReview.Digest.Blake3

/-- The eight words that are handed from block to block. -/
abbrev Chain := Vector UInt32 8

/-- The sixteen words of a block. -/
abbrev Block := Vector UInt32 16

/-- The chaining value that every chunk starts with. -/
def initial : Chain :=
  #v[0x6a09e667, 0xbb67ae85, 0x3c6ef372, 0xa54ff53a, 0x510e527f, 0x9b05688c, 0x1f83d9ab, 0x5be0cd19]

/-! ### Flags -/

def chunkStart : UInt32 := 1

def chunkEnd : UInt32 := 2

def parentNode : UInt32 := 4

def rootNode : UInt32 := 8

/-! ### Compression -/

/-- Rotation to the right. -/
def rotate (w : UInt32) (n : UInt32) : UInt32 := (w >>> n) ||| (w <<< (32 - n))

/-- Stirs two words of the message into four words of the state. -/
def mix (v : Block) (a b c d : Fin 16) (x y : UInt32) : Block :=
  let va := v[a] + v[b] + x
  let vd := rotate (v[d] ^^^ va) 16
  let vc := v[c] + vd
  let vb := rotate (v[b] ^^^ vc) 12
  let va := va + vb + y
  let vd := rotate (vd ^^^ va) 8
  let vc := vc + vd
  let vb := rotate (vb ^^^ vc) 7
  (((v.set a va).set b vb).set c vc).set d vd

/-- One round: the columns of the state, then its diagonals. -/
def round (v m : Block) : Block :=
  let v := mix v 0 4 8 12 m[0] m[1]
  let v := mix v 1 5 9 13 m[2] m[3]
  let v := mix v 2 6 10 14 m[4] m[5]
  let v := mix v 3 7 11 15 m[6] m[7]
  let v := mix v 0 5 10 15 m[8] m[9]
  let v := mix v 1 6 11 12 m[10] m[11]
  let v := mix v 2 7 8 13 m[12] m[13]
  mix v 3 4 9 14 m[14] m[15]

/-- The order in which the next round takes the words of the message. -/
def permute (m : Block) : Block :=
  #v[m[2], m[6], m[3], m[10], m[7], m[0], m[4], m[13],
    m[1], m[11], m[12], m[5], m[9], m[14], m[15], m[8]]

/-- A number of rounds. -/
def rounds : Nat → Block → Block → Block
  | 0, v, _ => v
  | n + 1, v, m => rounds n (round v m) (permute m)

/-- A node before its compression: the chaining value it starts from, a block, the number of its
chunk, the number of bytes in the block, and its flags. -/
structure Node where
  chain : Chain
  block : Block
  counter : Nat
  size : Nat
  flags : UInt32

/-- The chaining value of a node, with further flags. -/
def Node.compress (n : Node) (more : UInt32) : Chain :=
  let h := n.chain
  let v := rounds 7
    #v[h[0], h[1], h[2], h[3], h[4], h[5], h[6], h[7],
      0x6a09e667, 0xbb67ae85, 0x3c6ef372, 0xa54ff53a,
      UInt32.ofNat n.counter, UInt32.ofNat (n.counter >>> 32), UInt32.ofNat n.size,
      n.flags ||| more]
    n.block
  #v[v[0] ^^^ v[8], v[1] ^^^ v[9], v[2] ^^^ v[10], v[3] ^^^ v[11],
    v[4] ^^^ v[12], v[5] ^^^ v[13], v[6] ^^^ v[14], v[7] ^^^ v[15]]

/-! ### Chunks -/

/-- The little-endian word at an index of a run of bytes, absent bytes being zero. -/
def wordAt (bytes : Array UInt8) (i : Nat) : UInt32 :=
  let byte (k : Nat) : UInt32 := (bytes.getD (4 * i + k) 0).toUInt32
  byte 0 ||| byte 1 <<< 8 ||| byte 2 <<< 16 ||| byte 3 <<< 24

/-- The words of a block of at most 64 bytes. -/
def blockOf (bytes : List UInt8) : Block :=
  let bytes := bytes.toArray
  Vector.ofFn fun i ↦ wordAt bytes i

/-- The bytes cut into pieces of a positive size; of no bytes there is one empty piece. -/
def pieces (size : Nat) (bytes : List UInt8) : List (List UInt8) :=
  if 0 < size ∧ size < bytes.length then
    bytes.take size :: pieces size (bytes.drop size)
  else
    [bytes]
termination_by bytes.length
decreasing_by
  simp only [List.length_drop]
  omega

/-- The node of the last block of a chunk, given its blocks and what was hashed before them. -/
def chunkNode (counter : Nat) (chain : Chain) (flags : UInt32) : List (List UInt8) → Node
  | [] => ⟨chain, blockOf [], counter, 0, flags ||| chunkEnd⟩
  | [block] => ⟨chain, blockOf block, counter, block.length, flags ||| chunkEnd⟩
  | block :: rest =>
    let node : Node := ⟨chain, blockOf block, counter, block.length, flags⟩
    chunkNode counter (node.compress 0) 0 rest

/-- The leaves of the tree: one node for each chunk. -/
def leaves (bytes : List UInt8) : List Node :=
  (pieces 1024 bytes).zipIdx.map fun (chunk, counter) ↦
    chunkNode counter initial chunkStart (pieces 64 chunk)

/-! ### The tree -/

/-- The node above two nodes. -/
def parent (left right : Node) : Node :=
  let l := left.compress 0
  let r := right.compress 0
  ⟨initial,
    #v[l[0], l[1], l[2], l[3], l[4], l[5], l[6], l[7],
      r[0], r[1], r[2], r[3], r[4], r[5], r[6], r[7]],
    0, 64, parentNode⟩

/-- One level of the tree from the level below. -/
def joinPairs : List Node → List Node
  | left :: right :: rest => parent left right :: joinPairs rest
  | nodes => nodes

theorem length_joinPairs (nodes : List Node) : (joinPairs nodes).length ≤ nodes.length := by
  fun_induction joinPairs nodes with
  | case1 left right rest ih =>
    simp only [List.length_cons]
    omega
  | case2 => exact Nat.le_refl _

/-- The root above a first node and its right neighbours on one level. -/
def root (first : Node) : List Node → Node
  | [] => first
  | second :: rest => root (parent first second) (joinPairs rest)
termination_by nodes => nodes.length
decreasing_by
  have := length_joinPairs rest
  simp only [List.length_cons]
  omega

/-- The four bytes of a word, the lowest first. -/
def wordBytes (w : UInt32) : List UInt8 :=
  [w.toUInt8, (w >>> 8).toUInt8, (w >>> 16).toUInt8, (w >>> 24).toUInt8]

/-- The root node of the bytes. -/
def rootOf (bytes : List UInt8) : Node :=
  match leaves bytes with
  | [] => chunkNode 0 initial chunkStart []
  | first :: rest => root first rest

/-- The digest of the bytes. -/
def hash (bytes : List UInt8) : Digest where
  bytes := ((rootOf bytes).compress rootNode).toList.flatMap wordBytes
  length_eq := by
    simp [List.length_flatMap, wordBytes, List.map_const']

end SpacedReview.Digest.Blake3
