import RecurringBilling.Digest.Grid
import RecurringBilling.Digest.Words

/-!
# BLAKE2b

The message is cut into blocks of 128 bytes, the last one filled up with zeros.
The length of the digest, from 1 to 64 bytes, enters the first state, so digests
of different lengths have nothing in common.
-/

namespace RecurringBilling.Digest.Blake2b

/-- Bytes in a block. -/
def blockSize : Nat := 128

/-- The words that every state starts from. -/
def seed : List UInt64 :=
  [0x6a09e667f3bcc908, 0xbb67ae8584caa73b, 0x3c6ef372fe94f82b, 0xa54ff53a5f1d36f1,
    0x510e527fade682d1, 0x9b05688c2b3e6c1f, 0x1f83d9abfb41bd6b, 0x5be0cd19137e2179]

/-- For each round, the order in which the words of the block are used. -/
def wordOrder : List (List Nat) :=
  [[0, 1, 2, 3, 4, 5, 6, 7, 8, 9, 10, 11, 12, 13, 14, 15],
    [14, 10, 4, 8, 9, 15, 13, 6, 1, 12, 0, 2, 11, 7, 5, 3],
    [11, 8, 12, 0, 5, 2, 15, 13, 10, 14, 3, 6, 7, 1, 9, 4],
    [7, 9, 3, 1, 13, 12, 11, 14, 2, 6, 5, 10, 4, 0, 15, 8],
    [9, 0, 5, 7, 2, 4, 10, 15, 14, 1, 11, 12, 6, 8, 3, 13],
    [2, 12, 6, 10, 0, 11, 8, 3, 4, 13, 7, 5, 15, 14, 1, 9],
    [12, 5, 1, 15, 14, 13, 4, 10, 0, 7, 6, 3, 9, 2, 8, 11],
    [13, 11, 7, 14, 12, 1, 3, 9, 5, 0, 15, 4, 8, 6, 2, 10],
    [6, 15, 14, 9, 11, 3, 0, 8, 12, 2, 13, 7, 1, 4, 10, 5],
    [10, 2, 8, 4, 7, 6, 1, 5, 15, 11, 9, 14, 3, 12, 13, 0],
    [0, 1, 2, 3, 4, 5, 6, 7, 8, 9, 10, 11, 12, 13, 14, 15],
    [14, 10, 4, 8, 9, 15, 13, 6, 1, 12, 0, 2, 11, 7, 5, 3]]

/-- Mixes two words of the block into four words. -/
def mix (x y : UInt64) (q : Quad) : Quad :=
  let a := q.a + q.b + x
  let d := rotateRight (q.d ^^^ a) 32
  let c := q.c + d
  let b := rotateRight (q.b ^^^ c) 24
  let a := a + b + y
  let d := rotateRight (d ^^^ a) 16
  let c := c + d
  let b := rotateRight (b ^^^ c) 63
  ⟨a, b, c, d⟩

/-- One round with the words of the block in a given order. -/
def round (block : List UInt64) (g : Grid) (order : List Nat) : Grid :=
  let word (i : Nat) := block.getD (order.getD i 0) 0
  g.round fun step => mix (word (2 * step)) (word (2 * step + 1))

/-- Compresses one block into the eight words of the state.  `taken` counts the
bytes of the message up to the end of the block. -/
def compress (state : List UInt64) (taken : Nat) (isLast : Bool) (block : List UInt8) :
    List UInt64 :=
  let counter : List UInt64 :=
    [UInt64.ofNat taken, UInt64.ofNat (taken / 0x10000000000000000), if isLast then 0xFFFFFFFFFFFFFFFF else 0, 0]
  let start := Grid.ofList (state ++ seed.take 4 ++ (seed.drop 4).zipWith (· ^^^ ·) counter)
  let final := (wordOrder.foldl (round (littleEndianWords64 block)) start).toList
  state.zipWith (· ^^^ ·) ((final.take 8).zipWith (· ^^^ ·) (final.drop 8))

/-- Compresses the blocks of a message of which `taken` bytes are done. -/
def absorb (length : Nat) (state : List UInt64) (taken : Nat) :
    List (List UInt8) → List UInt64
  | [] => state
  | [block] =>
    compress state length true (block ++ List.replicate (blockSize - block.length) 0)
  | block :: next :: rest =>
    absorb length (compress state (taken + blockSize) false block) (taken + blockSize)
      (next :: rest)

/-- The digest of a message in `size` bytes. -/
def digest (size : Nat) (message : List UInt8) : List UInt8 :=
  let parameters : List UInt64 := (0x01010000 ^^^ UInt64.ofNat size) :: List.replicate 7 0
  -- an empty message still has one block
  let count := max 1 ((message.length + blockSize - 1) / blockSize)
  let state :=
    absorb message.length (seed.zipWith (· ^^^ ·) parameters) 0 (blocks blockSize count message)
  (state.flatMap littleEndian64).take size

end RecurringBilling.Digest.Blake2b
