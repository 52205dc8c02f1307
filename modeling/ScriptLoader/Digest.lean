/-!
# BLAKE3 digests

The 256-bit BLAKE3 digest of a list of bytes, written in hexadecimal. The bytes are cut
into chunks, a chunk into blocks, and the chunks are the leaves of a binary tree whose left
part is always full.
-/

namespace ScriptLoader.Digest

/-- Four words, one row of the state. -/
structure Row where
  w0 : UInt32
  w1 : UInt32
  w2 : UInt32
  w3 : UInt32

namespace Row

/-- Combines two rows word by word. -/
def zip (f : UInt32 → UInt32 → UInt32) (a b : Row) : Row :=
  ⟨f a.w0 b.w0, f a.w1 b.w1, f a.w2 b.w2, f a.w3 b.w3⟩

/-- The row moved to the left by one word. -/
def shift (a : Row) : Row :=
  ⟨a.w1, a.w2, a.w3, a.w0⟩

/-- The words of a row. -/
def words (a : Row) : List UInt32 :=
  [a.w0, a.w1, a.w2, a.w3]

/-- The row of the first four words of a list. -/
def ofWords : List UInt32 → Row
  | w0 :: w1 :: w2 :: w3 :: _ => ⟨w0, w1, w2, w3⟩
  | _ => ⟨0, 0, 0, 0⟩

end Row

/-- The sixteen words of the state. -/
structure Matrix where
  a : Row
  b : Row
  c : Row
  d : Row

/-- A word turned to the right. -/
def rotate (word : UInt32) (count : UInt32) : UInt32 :=
  (word >>> count) ||| (word <<< (32 - count))

/-- Mixes every column with two rows of message words. -/
def mixColumns (s : Matrix) (x y : Row) : Matrix :=
  let turnedXor (count : UInt32) (p q : UInt32) : UInt32 := rotate (p ^^^ q) count
  let a := ((s.a.zip (· + ·) s.b).zip (· + ·) x)
  let d := s.d.zip (turnedXor 16) a
  let c := s.c.zip (· + ·) d
  let b := s.b.zip (turnedXor 12) c
  let a := (a.zip (· + ·) b).zip (· + ·) y
  let d := d.zip (turnedXor 8) a
  let c := c.zip (· + ·) d
  let b := b.zip (turnedXor 7) c
  ⟨a, b, c, d⟩

/-- Mixes every column and then every diagonal with the message. -/
def mixRound (s : Matrix) : List UInt32 → Matrix
  | [m0, m1, m2, m3, m4, m5, m6, m7, m8, m9, m10, m11, m12, m13, m14, m15] =>
    let s := mixColumns s ⟨m0, m2, m4, m6⟩ ⟨m1, m3, m5, m7⟩
    let s : Matrix := ⟨s.a, s.b.shift, s.c.shift.shift, s.d.shift.shift.shift⟩
    let s := mixColumns s ⟨m8, m10, m12, m14⟩ ⟨m9, m11, m13, m15⟩
    ⟨s.a, s.b.shift.shift.shift, s.c.shift.shift, s.d.shift⟩
  | _ => s

/-- The message in the order of the next round. -/
def permuted : List UInt32 → List UInt32
  | [m0, m1, m2, m3, m4, m5, m6, m7, m8, m9, m10, m11, m12, m13, m14, m15] =>
    [m2, m6, m3, m10, m7, m0, m4, m13, m1, m11, m12, m5, m9, m14, m15, m8]
  | message => message

/-- The state after a number of rounds. -/
def mixRounds : Nat → Matrix → List UInt32 → Matrix
  | 0, s, _ => s
  | rounds + 1, s, message => mixRounds rounds (mixRound s message) (permuted message)

/-- The words that every chaining value starts from. -/
def initialWords : List UInt32 :=
  [0x6A09E667, 0xBB67AE85, 0x3C6EF372, 0xA54FF53A,
    0x510E527F, 0x9B05688C, 0x1F83D9AB, 0x5BE0CD19]

/-- The flags of the first block of a chunk, its last block, an inner node and the root. -/
def chunkStart : UInt32 := 1
@[inherit_doc chunkStart] def chunkEnd : UInt32 := 2
@[inherit_doc chunkStart] def innerNode : UInt32 := 4
@[inherit_doc chunkStart] def rootNode : UInt32 := 8

/-- What is compressed last at a node of the tree. -/
structure Node where
  chaining : List UInt32
  block : List UInt32
  counter : Nat
  length : Nat
  flags : UInt32

/-- The eight words that a node hands on, with more flags. -/
def Node.value (node : Node) (flags : UInt32) : List UInt32 :=
  let start : Matrix :=
    { a := .ofWords node.chaining
      b := .ofWords (node.chaining.drop 4)
      c := .ofWords initialWords
      d := ⟨(node.counter % 0x100000000).toUInt32, (node.counter / 0x100000000).toUInt32,
        node.length.toUInt32, node.flags ||| flags⟩ }
  let mixed := mixRounds 7 start node.block
  (mixed.a.zip (· ^^^ ·) mixed.c).words ++ (mixed.b.zip (· ^^^ ·) mixed.d).words

/-- The words of bytes, the lowest byte first; missing bytes count as zero. -/
def wordsOf : Nat → List UInt8 → List UInt32
  | 0, _ => []
  | count + 1, bytes =>
    let byte (i : Nat) : UInt32 := (bytes.getD i 0).toUInt32
    (byte 0 ||| byte 1 <<< 8 ||| byte 2 <<< 16 ||| byte 3 <<< 24) ::
      wordsOf count (bytes.drop 4)

/-- The last node of a chunk, after `fuel` more blocks at most. -/
def chunkFrom (counter : Nat) : Nat → List UInt32 → UInt32 → List UInt8 → Node
  | 0, chaining, flags, bytes =>
    ⟨chaining, wordsOf 16 bytes, counter, bytes.length, flags ||| chunkEnd⟩
  | fuel + 1, chaining, flags, bytes =>
    if bytes.length ≤ 64 then chunkFrom counter 0 chaining flags bytes
    else
      let block : Node := ⟨chaining, wordsOf 16 (bytes.take 64), counter, 64, flags⟩
      chunkFrom counter fuel (block.value 0) 0 (bytes.drop 64)

/-- The last node of a chunk of at most 1024 bytes. -/
def chunk (counter : Nat) (bytes : List UInt8) : Node :=
  chunkFrom counter 15 initialWords chunkStart bytes

/-- The tree over bytes whose first chunk has the number `counter`. -/
def tree : Nat → Nat → List UInt8 → Node
  | 0, counter, bytes => chunk counter bytes
  | fuel + 1, counter, bytes =>
    if bytes.length ≤ 1024 then chunk counter bytes
    else
      let leaves := Nat.pow 2 ((bytes.length - 1) / 1024).log2
      let left := tree fuel counter (bytes.take (leaves * 1024))
      let right := tree fuel (counter + leaves) (bytes.drop (leaves * 1024))
      ⟨initialWords, left.value 0 ++ right.value 0, 0, 64, innerNode⟩

/-- The bytes of a word, the lowest one first. -/
def bytesOf (word : UInt32) : List UInt8 :=
  [word.toUInt8, (word >>> 8).toUInt8, (word >>> 16).toUInt8, (word >>> 24).toUInt8]

/-- A byte in lower-case hexadecimal. -/
def hexOf (byte : UInt8) : List Char :=
  [Nat.digitChar (byte.toNat / 16), Nat.digitChar (byte.toNat % 16)]

/-- The digest of bytes in hexadecimal. -/
def blake3 (bytes : List UInt8) : String :=
  let root := (tree bytes.length 0 bytes).value rootNode
  String.ofList ((root.flatMap bytesOf).flatMap hexOf)

end ScriptLoader.Digest
