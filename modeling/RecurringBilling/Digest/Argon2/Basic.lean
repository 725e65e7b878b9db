import RecurringBilling.Digest.Argon2.Block
import RecurringBilling.Digest.Blake2b

/-!
# Argon2

A password is stretched over a memory of blocks.  The memory is split into
lanes, each lane into four segments; every block is combined from the one before
it in its lane and from another one that has been filled already.  The variants
differ in how that other block is chosen: independently of the password, from
the block before, or in the first half of the first pass the one way and the
other way after it.
-/

namespace RecurringBilling.Digest.Argon2

/-- How the other block is chosen. -/
inductive Variant where
  | dependent
  | independent
  | hybrid
  deriving DecidableEq, Repr

/-- The number of a variant. -/
def Variant.number : Variant → Nat
  | .dependent => 0
  | .independent => 1
  | .hybrid => 2

/-- The older version writes over blocks in later passes, the newer one mixes
into them. -/
inductive Version where
  | older
  | newer
  deriving DecidableEq, Repr

/-- The number of a version. -/
def Version.number : Version → Nat
  | .older => 16
  | .newer => 19

/-- What a password is stretched with.  `memory` counts blocks, `size` the bytes
of the result. -/
structure Settings where
  variant : Variant
  version : Version
  memory : Nat
  passes : Nat
  lanes : Nat
  size : Nat
  extra : List UInt8
  deriving DecidableEq, Repr

namespace Settings

/-- Blocks in a segment, the quarter of a lane. -/
def segment (s : Settings) : Nat := s.memory / (4 * s.lanes)

/-- Blocks in a lane. -/
def lane (s : Settings) : Nat := 4 * s.segment

/-- Blocks in the whole memory. -/
def blockCount (s : Settings) : Nat := s.lane * s.lanes

end Settings

/-- A number in four bytes. -/
def number32 (n : Nat) : List UInt8 := littleEndian32 (UInt32.ofNat n)

/-- A byte sequence after its length. -/
def counted (bytes : List UInt8) : List UInt8 := number32 bytes.length ++ bytes

/-- The pieces of a long digest: half of each short digest but the last. -/
def longDigestTail : (halves : Nat) → (size : Nat) → List UInt8 → List UInt8
  | 0, size, previous => Blake2b.digest size previous
  | halves + 1, size, previous =>
    let next := Blake2b.digest 64 previous
    next.take 32 ++ longDigestTail halves size next

/-- A digest of any length. -/
def longDigest (size : Nat) (message : List UInt8) : List UInt8 :=
  let start := number32 size ++ message
  if size ≤ 64 then Blake2b.digest size start
  else
    let halves := (size + 31) / 32 - 2
    let first := Blake2b.digest 64 start
    first.take 32 ++ longDigestTail (halves - 1) (size - 32 * halves) first

/-- The digest of everything that enters the computation. -/
def startDigest (s : Settings) (password salt : List UInt8) : List UInt8 :=
  Blake2b.digest 64
    ([s.lanes, s.size, s.memory, s.passes, s.version.number, s.variant.number].flatMap number32
      ++ counted password ++ counted salt ++ counted [] ++ counted s.extra)

/-- One of the first two blocks of a lane. -/
def firstBlock (start : List UInt8) (lane column : Nat) : Block :=
  Block.ofBytes (longDigest blockSize (start ++ number32 column ++ number32 lane))

/-- The memory with the first two blocks of every lane. -/
def startMemory (s : Settings) (start : List UInt8) : Array Block :=
  (List.range s.lanes).foldl
    (fun memory lane =>
      (memory.setIfInBounds (lane * s.lane) (firstBlock start lane 0)).setIfInBounds
        (lane * s.lane + 1) (firstBlock start lane 1))
    (Array.replicate s.blockCount Block.zero)

/-- The place of a segment: its pass, its quarter and its lane. -/
structure Place where
  pass : Nat
  quarter : Nat
  lane : Nat

/-- The other block of a segment is chosen independently of the password. -/
def choosesIndependently (s : Settings) (place : Place) : Bool :=
  match s.variant with
  | .dependent => false
  | .independent => true
  | .hybrid => place.pass == 0 && place.quarter < 2

/-- The words by which the other blocks of a segment are chosen independently of
the password. -/
def chosenWords (s : Settings) (place : Place) : Array UInt64 :=
  let wordsOf (counter : Nat) : List UInt64 :=
    let start := Block.ofWords
      ([place.pass, place.lane, place.quarter, s.blockCount, s.passes, s.variant.number,
        counter + 1].map UInt64.ofNat)
    (Block.zero.compress (Block.zero.compress start)).words
  ((List.range ((s.segment + 127) / 128)).flatMap wordsOf).toArray

/-- What a word is divided by to give its upper half. -/
def halfWord : Nat := 0x100000000

/-- Where the other block stands that a word chooses for the block `index` of a
segment. -/
def chosenBlock (s : Settings) (place : Place) (index : Nat) (word : UInt64) : Nat :=
  let low := word.toNat % halfWord
  let high := word.toNat / halfWord
  -- in the first segment of all, the other lanes are still empty
  let isFirst := place.pass == 0 && place.quarter == 0
  let lane := if isFirst then place.lane else high % s.lanes
  let finished := if place.pass == 0 then place.quarter * s.segment else s.lane - s.segment
  let area :=
    if lane == place.lane then finished + index - 1
    else if index == 0 then finished - 1
    else finished
  -- squaring makes the blocks filled last the likeliest
  let back := area * (low * low / halfWord) / halfWord
  let start :=
    if place.pass == 0 || place.quarter == 3 then 0 else (place.quarter + 1) * s.segment
  lane * s.lane + (start + (area - 1 - back)) % s.lane

/-- Fills the block `index` of a segment.  Where no word was chosen in advance, the
first word of the block before decides. -/
def fillBlock (s : Settings) (place : Place) (chosen : Array UInt64) (memory : Array Block)
    (index : Nat) : Array Block :=
  let column := place.quarter * s.segment + index
  let here := place.lane * s.lane + column
  let before := place.lane * s.lane + (column + s.lane - 1) % s.lane
  let previous := memory.getD before Block.zero
  let word := chosen.getD index previous.r0.w0
  let other := memory.getD (chosenBlock s place index word) Block.zero
  let combined := previous.compress other
  -- the newer version keeps what the block held in the pass before
  if place.pass == 0 || s.version == .older then memory.setIfInBounds here combined
  else memory.setIfInBounds here (combined.xor (memory.getD here Block.zero))

/-- Fills a segment.  The first two blocks of a lane are there from the start. -/
def fillSegment (s : Settings) (memory : Array Block) (place : Place) : Array Block :=
  let chosen := if choosesIndependently s place then chosenWords s place else #[]
  let ready := if place.pass == 0 && place.quarter == 0 then 2 else 0
  ((List.range s.segment).drop ready).foldl (fillBlock s place chosen) memory

/-- Every segment in the order in which they are filled. -/
def places (s : Settings) : List Place :=
  (List.range s.passes).flatMap fun pass =>
    (List.range 4).flatMap fun quarter => (List.range s.lanes).map fun lane => ⟨pass, quarter, lane⟩

/-- Combines the last blocks of all lanes. -/
def lastBlock (s : Settings) (memory : Array Block) : Block :=
  (List.range s.lanes).foldl
    (fun block lane => block.xor (memory.getD (lane * s.lane + (s.lane - 1)) Block.zero))
    Block.zero

/-- Stretches a password. -/
def stretch (s : Settings) (password salt : List UInt8) : List UInt8 :=
  let memory := (places s).foldl (fillSegment s) (startMemory s (startDigest s password salt))
  longDigest s.size (lastBlock s memory).bytes

end RecurringBilling.Digest.Argon2
