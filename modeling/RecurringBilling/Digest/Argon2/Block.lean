import RecurringBilling.Digest.Grid
import RecurringBilling.Digest.Words

/-!
# Blocks of Argon2

A block is 1024 bytes, eight grids of sixteen wide words.  Two blocks are
combined by mixing the rows of their exclusive or, then its columns, and adding
what there was before the mixing.
-/

namespace RecurringBilling.Digest.Argon2

/-- Bytes in a block. -/
def blockSize : Nat := 1024

/-- Eight rows of sixteen wide words. -/
structure Block where
  r0 : Grid
  r1 : Grid
  r2 : Grid
  r3 : Grid
  r4 : Grid
  r5 : Grid
  r6 : Grid
  r7 : Grid
  deriving DecidableEq, Repr, Inhabited

/-- Adds two words and twice the product of their lower halves. -/
@[inline]
def blend (x y : UInt64) : UInt64 := x + y + 2 * ((x &&& 0xFFFFFFFF) * (y &&& 0xFFFFFFFF))

/-- Mixes four words. -/
@[inline]
def mix (q : Quad) : Quad :=
  let a := blend q.a q.b
  let d := rotateRight (q.d ^^^ a) 32
  let c := blend q.c d
  let b := rotateRight (q.b ^^^ c) 24
  let a := blend a b
  let d := rotateRight (d ^^^ a) 16
  let c := blend c d
  let b := rotateRight (b ^^^ c) 63
  ⟨a, b, c, d⟩

/-- Mixes a grid. -/
def permute (g : Grid) : Grid := g.round fun _ => mix

namespace Block

/-- Every word is zero. -/
def zero : Block :=
  ⟨Grid.zero, Grid.zero, Grid.zero, Grid.zero, Grid.zero, Grid.zero, Grid.zero, Grid.zero⟩

/-- The block of a list of words, filled up with zeros. -/
def ofWords (ws : List UInt64) : Block :=
  let row (i : Nat) := Grid.ofList (ws.drop (16 * i))
  ⟨row 0, row 1, row 2, row 3, row 4, row 5, row 6, row 7⟩

/-- The block of a byte sequence. -/
def ofBytes (bytes : List UInt8) : Block := ofWords (littleEndianWords64 bytes)

/-- The words, row by row. -/
def words (b : Block) : List UInt64 :=
  [b.r0, b.r1, b.r2, b.r3, b.r4, b.r5, b.r6, b.r7].flatMap Grid.toList

/-- The bytes of a block. -/
def bytes (b : Block) : List UInt8 := b.words.flatMap littleEndian64

/-- Combines two blocks by exclusive or. -/
def xor (b c : Block) : Block :=
  ⟨b.r0.xor c.r0, b.r1.xor c.r1, b.r2.xor c.r2, b.r3.xor c.r3, b.r4.xor c.r4, b.r5.xor c.r5,
    b.r6.xor c.r6, b.r7.xor c.r7⟩

/-- Mixes every row. -/
def permuteRows (b : Block) : Block :=
  ⟨permute b.r0, permute b.r1, permute b.r2, permute b.r3, permute b.r4, permute b.r5,
    permute b.r6, permute b.r7⟩

/-- A column of the block as a grid: the same two words of every row. -/
@[inline]
def column (b : Block) (f g : Grid → UInt64) : Grid :=
  ⟨f b.r0, g b.r0, f b.r1, g b.r1, f b.r2, g b.r2, f b.r3, g b.r3, f b.r4, g b.r4, f b.r5, g b.r5,
    f b.r6, g b.r6, f b.r7, g b.r7⟩

/-- Exchanges rows and columns. -/
def transpose (b : Block) : Block :=
  ⟨b.column (·.w0) (·.w1), b.column (·.w2) (·.w3), b.column (·.w4) (·.w5), b.column (·.w6) (·.w7),
    b.column (·.w8) (·.w9), b.column (·.w10) (·.w11), b.column (·.w12) (·.w13),
    b.column (·.w14) (·.w15)⟩

/-- Combines two blocks. -/
def compress (b c : Block) : Block :=
  let start := b.xor c
  (start.permuteRows.transpose.permuteRows.transpose).xor start

end Block

end RecurringBilling.Digest.Argon2
