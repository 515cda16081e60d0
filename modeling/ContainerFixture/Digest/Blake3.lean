/-!
# BLAKE3

The hash function BLAKE3 with a digest of 256 bits. The input is cut into chunks of 1024 bytes and
those into blocks of 64 bytes. A chunk is compressed block by block; the chunks are the leaves of a
binary tree whose inner nodes compress the two values below them.
-/

namespace ContainerFixture.Blake3

/-- Sixteen words: the state of a compression, or a block of a message. -/
abbrev Words := Vector UInt32 16

/-- Eight words: what a compression hands on. -/
abbrev Chaining := Vector UInt32 8

/-- The first thirty-two bits of the fractions of the square roots of the first eight primes. -/
def start : Chaining :=
  #v[0x6A09E667, 0xBB67AE85, 0x3C6EF372, 0xA54FF53A, 0x510E527F, 0x9B05688C, 0x1F83D9AB, 0x5BE0CD19]

def turn (word amount : UInt32) : UInt32 := (word >>> amount) ||| (word <<< (32 - amount))

/-- Mixes four words of the state with two words of the message. -/
def mix (s : Words) (a b c d : Fin 16) (x y : UInt32) : Words :=
  let va := s[a] + s[b] + x
  let vd := turn (s[d] ^^^ va) 16
  let vc := s[c] + vd
  let vb := turn (s[b] ^^^ vc) 12
  let va := va + vb + y
  let vd := turn (vd ^^^ va) 8
  let vc := vc + vd
  let vb := turn (vb ^^^ vc) 7
  (((s.set a va).set b vb).set c vc).set d vd

/-- One round: the columns of the state, then its diagonals. -/
def round (s m : Words) : Words :=
  let s := mix s 0 4 8 12 m[0] m[1]
  let s := mix s 1 5 9 13 m[2] m[3]
  let s := mix s 2 6 10 14 m[4] m[5]
  let s := mix s 3 7 11 15 m[6] m[7]
  let s := mix s 0 5 10 15 m[8] m[9]
  let s := mix s 1 6 11 12 m[10] m[11]
  let s := mix s 2 7 8 13 m[12] m[13]
  mix s 3 4 9 14 m[14] m[15]

/-- The order in which the next round takes the words of the message. -/
def permute (m : Words) : Words :=
  #v[m[2], m[6], m[3], m[10], m[7], m[0], m[4], m[13],
    m[1], m[11], m[12], m[5], m[9], m[14], m[15], m[8]]

def rounds : Nat → Words → Words → Words
  | 0, s, _ => s
  | n + 1, s, m => rounds n (round s m) (permute m)

/-- What is left to compress: the value so far, a block, and what the block is. -/
structure Node where
  chaining : Chaining
  block : Words
  chunk : UInt64
  length : UInt32
  flags : UInt32

def chunkStart : UInt32 := 1
def chunkEnd : UInt32 := 2
def inner : UInt32 := 4
def root : UInt32 := 8

/-- The value that a node hands on. -/
def Node.compress (node : Node) : Chaining :=
  let above := node.chaining
  let s : Words :=
    #v[above[0], above[1], above[2], above[3], above[4], above[5], above[6], above[7],
      start[0], start[1], start[2], start[3],
      node.chunk.toUInt32, (node.chunk >>> 32).toUInt32, node.length, node.flags]
  let s := rounds 7 s node.block
  Vector.ofFn fun i : Fin 8 => s[i.val] ^^^ s[i.val + 8]

/-- Cuts a list into pieces of `size` elements, the last of which may be shorter. An empty list is
one empty piece. -/
def cut {α : Type} (size : Nat) (items : List α) : List (List α) :=
  let count := (items.length + size - 1) / size
  if count = 0 then [[]]
  else (List.range count).map fun i => (items.drop (i * size)).take size

/-- A word of a block, lowest byte first. Past its end a block is zero. -/
def wordAt (block : Array UInt8) (i : Nat) : UInt32 :=
  let byte (k : Nat) : UInt32 := (block.getD (4 * i + k) 0).toUInt32
  byte 0 ||| (byte 1 <<< 8) ||| (byte 2 <<< 16) ||| (byte 3 <<< 24)

/-- The last node of a chunk, whose blocks are taken up one after the other. -/
def chunkNode (chunk : UInt64) (chaining : Chaining) (first : UInt32) : List (List UInt8) → Node
  | [] => ⟨chaining, Vector.replicate 16 0, chunk, 0, first ||| chunkEnd⟩
  | block :: rest =>
    let bytes := block.toArray
    let words : Words := Vector.ofFn fun i : Fin 16 => wordAt bytes i
    let node : Node := ⟨chaining, words, chunk, bytes.size.toUInt32, first⟩
    match rest with
    | [] => { node with flags := first ||| chunkEnd }
    | rest => chunkNode chunk node.compress 0 rest

/-- The node above two others. -/
def above (left right : Node) : Node :=
  ⟨start, left.compress ++ right.compress, 0, 64, inner⟩

/-- One level up: neighbours are joined in pairs, and a last one without a neighbour goes up as it
is. -/
def levelUp : List Node → List Node
  | left :: right :: rest => above left right :: levelUp rest
  | rest => rest

theorem length_levelUp (nodes : List Node) : (levelUp nodes).length = (nodes.length + 1) / 2 := by
  fun_induction levelUp with
  | case1 left right rest ih => simp only [List.length_cons, ih]; omega
  | case2 rest h =>
    match rest with
    | [] => rfl
    | [_] => simp
    | a :: b :: c => exact absurd rfl (h a b c)

/-- The root of the tree over some nodes, the first of which is given apart. -/
def top (first : Node) (rest : List Node) : Node :=
  match levelUp (first :: rest), length_levelUp (first :: rest) with
  | [], _ => first
  | [only], _ => only
  | first' :: second :: rest', _halved => top first' (second :: rest')
termination_by rest.length
decreasing_by
  simp only [List.length_cons] at _halved ⊢
  omega

def digest (bytes : List UInt8) : Chaining :=
  let leaves := (cut 1024 bytes).mapIdx fun i chunk =>
    chunkNode i.toUInt64 start chunkStart (cut 64 chunk)
  match leaves with
  | [] => start
  | first :: rest =>
    let node := top first rest
    { node with flags := node.flags ||| root }.compress

def byteText (b : UInt8) : String :=
  String.ofList [Nat.digitChar (b.toNat / 16), Nat.digitChar (b.toNat % 16)]

/-- The bytes of a word, lowest first. -/
def bytesOf (word : UInt32) : List UInt8 :=
  [word.toUInt8, (word >>> 8).toUInt8, (word >>> 16).toUInt8, (word >>> 24).toUInt8]

/-- The digest of a text, written in hexadecimal. -/
def textDigest (s : String) : String :=
  String.join (((digest s.toUTF8.toList).toList.flatMap bytesOf).map byteText)

end ContainerFixture.Blake3
