import RecurringBilling.Digest.Words

/-!
# SHA-256

The message is padded to whole blocks of 64 bytes; each block is compressed into
a state of eight words, which are written out at the end.
-/

namespace RecurringBilling.Digest.Sha256

/-- Bytes in a block. -/
def blockSize : Nat := 64

/-- Eight words between two blocks. -/
structure State where
  a : UInt32
  b : UInt32
  c : UInt32
  d : UInt32
  e : UInt32
  f : UInt32
  g : UInt32
  h : UInt32
  deriving DecidableEq, Repr

/-- The state before the first block. -/
def State.initial : State :=
  ⟨0x6a09e667, 0xbb67ae85, 0x3c6ef372, 0xa54ff53a, 0x510e527f, 0x9b05688c, 0x1f83d9ab,
    0x5be0cd19⟩

/-- One constant for each round. -/
def roundConstants : List UInt32 :=
  [0x428a2f98, 0x71374491, 0xb5c0fbcf, 0xe9b5dba5, 0x3956c25b, 0x59f111f1, 0x923f82a4, 0xab1c5ed5,
    0xd807aa98, 0x12835b01, 0x243185be, 0x550c7dc3, 0x72be5d74, 0x80deb1fe, 0x9bdc06a7, 0xc19bf174,
    0xe49b69c1, 0xefbe4786, 0x0fc19dc6, 0x240ca1cc, 0x2de92c6f, 0x4a7484aa, 0x5cb0a9dc, 0x76f988da,
    0x983e5152, 0xa831c66d, 0xb00327c8, 0xbf597fc7, 0xc6e00bf3, 0xd5a79147, 0x06ca6351, 0x14292967,
    0x27b70a85, 0x2e1b2138, 0x4d2c6dfc, 0x53380d13, 0x650a7354, 0x766a0abb, 0x81c2c92e, 0x92722c85,
    0xa2bfe8a1, 0xa81a664b, 0xc24b8b70, 0xc76c51a3, 0xd192e819, 0xd6990624, 0xf40e3585, 0x106aa070,
    0x19a4c116, 0x1e376c08, 0x2748774c, 0x34b0bcb5, 0x391c0cb3, 0x4ed8aa4a, 0x5b9cca4f, 0x682e6ff3,
    0x748f82ee, 0x78a5636f, 0x84c87814, 0x8cc70208, 0x90befffa, 0xa4506ceb, 0xbef9a3f7, 0xc67178f2]

/-- Rotates a word to the right. -/
def rotate (w : UInt32) (n : UInt32) : UInt32 := w >>> n ||| w <<< (32 - n)

/-- Mixes the word of the schedule 15 places back. -/
def near (w : UInt32) : UInt32 := rotate w 7 ^^^ rotate w 18 ^^^ w >>> 3

/-- Mixes the word of the schedule 2 places back. -/
def far (w : UInt32) : UInt32 := rotate w 17 ^^^ rotate w 19 ^^^ w >>> 10

/-- Extends a schedule, last word first, by `count` words. -/
def extend : (count : Nat) → List UInt32 → List UInt32
  | 0, backwards => backwards
  | count + 1, backwards =>
    -- the schedule is held backwards, so the word one place back comes first
    let next :=
      far (backwards.getD 1 0) + backwards.getD 6 0 + near (backwards.getD 14 0)
        + backwards.getD 15 0
    extend count (next :: backwards)

/-- The 64 words that the rounds of a block use. -/
def schedule (block : List UInt32) : List UInt32 := (extend 48 block.reverse).reverse

/-- One round with its constant and its word. -/
def round (s : State) (constant word : UInt32) : State :=
  let choice := (s.e &&& s.f) ^^^ (~~~s.e &&& s.g)
  let majority := (s.a &&& s.b) ^^^ (s.a &&& s.c) ^^^ (s.b &&& s.c)
  let mixedE := rotate s.e 6 ^^^ rotate s.e 11 ^^^ rotate s.e 25
  let mixedA := rotate s.a 2 ^^^ rotate s.a 13 ^^^ rotate s.a 22
  let t := s.h + mixedE + choice + constant + word
  ⟨t + mixedA + majority, s.a, s.b, s.c, s.d + t, s.e, s.f, s.g⟩

/-- Adds two states word by word. -/
def State.add (s t : State) : State :=
  ⟨s.a + t.a, s.b + t.b, s.c + t.c, s.d + t.d, s.e + t.e, s.f + t.f, s.g + t.g, s.h + t.h⟩

/-- Compresses one block into the state. -/
def compress (s : State) (block : List UInt8) : State :=
  let words := schedule (bigEndianWords32 block)
  s.add ((roundConstants.zip words).foldl (fun t (constant, word) => round t constant word) s)

/-- The message with a mark, zeros and its length in bits, in whole blocks. -/
def pad (message : List UInt8) : List UInt8 :=
  -- the mark and the length take up nine bytes
  let zeros := (119 - message.length % blockSize) % blockSize
  message ++ 0x80 :: List.replicate zeros 0 ++ bigEndian64 (UInt64.ofNat (8 * message.length))

/-- The bytes of a state. -/
def State.bytes (s : State) : List UInt8 :=
  [s.a, s.b, s.c, s.d, s.e, s.f, s.g, s.h].flatMap bigEndian32

/-- The 32 bytes of the digest. -/
def digest (message : List UInt8) : List UInt8 :=
  let padded := pad message
  ((blocks blockSize (padded.length / blockSize) padded).foldl compress State.initial).bytes

end RecurringBilling.Digest.Sha256
