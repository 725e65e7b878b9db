/-!
# Words and blocks of bytes

Digests cut their input into blocks and read words from them, most or least
significant byte first.
-/

namespace RecurringBilling.Digest

/-- The byte of a word that stands `shift` bits above its low end. -/
def byte32 (w : UInt32) (shift : UInt32) : UInt8 := (w >>> shift).toUInt8

/-- The byte of a wide word that stands `shift` bits above its low end. -/
def byte64 (w : UInt64) (shift : UInt64) : UInt8 := (w >>> shift).toUInt8

/-- A word, most significant byte first. -/
def bigEndian32 (w : UInt32) : List UInt8 := [byte32 w 24, byte32 w 16, byte32 w 8, byte32 w 0]

/-- A word, least significant byte first. -/
def littleEndian32 (w : UInt32) : List UInt8 := [byte32 w 0, byte32 w 8, byte32 w 16, byte32 w 24]

/-- A wide word, most significant byte first. -/
def bigEndian64 (w : UInt64) : List UInt8 :=
  [byte64 w 56, byte64 w 48, byte64 w 40, byte64 w 32, byte64 w 24, byte64 w 16, byte64 w 8,
    byte64 w 0]

/-- A wide word, least significant byte first. -/
def littleEndian64 (w : UInt64) : List UInt8 :=
  [byte64 w 0, byte64 w 8, byte64 w 16, byte64 w 24, byte64 w 32, byte64 w 40, byte64 w 48,
    byte64 w 56]

/-- The words of a byte sequence, most significant byte first; a rest is left
out. -/
def bigEndianWords32 : List UInt8 → List UInt32
  | a :: b :: c :: d :: rest =>
    (a.toUInt32 <<< 24 ||| b.toUInt32 <<< 16 ||| c.toUInt32 <<< 8 ||| d.toUInt32)
      :: bigEndianWords32 rest
  | _ => []

/-- The wide words of a byte sequence, least significant byte first; a rest is
left out. -/
def littleEndianWords64 : List UInt8 → List UInt64
  | a :: b :: c :: d :: e :: f :: g :: h :: rest =>
    (a.toUInt64 ||| b.toUInt64 <<< 8 ||| c.toUInt64 <<< 16 ||| d.toUInt64 <<< 24
      ||| e.toUInt64 <<< 32 ||| f.toUInt64 <<< 40 ||| g.toUInt64 <<< 48 ||| h.toUInt64 <<< 56)
      :: littleEndianWords64 rest
  | _ => []

/-- The first `count` blocks of `size` bytes. -/
def blocks (size : Nat) : (count : Nat) → List UInt8 → List (List UInt8)
  | 0, _ => []
  | count + 1, bytes => bytes.take size :: blocks size count (bytes.drop size)

end RecurringBilling.Digest
