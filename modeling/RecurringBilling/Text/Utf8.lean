/-!
# UTF-8

Texts are written as bytes and read back byte by byte.  Reading never fails as
a whole: a byte that belongs to no character is kept as `none`, so that a
reader above this one can decide whether it matters.
-/

namespace RecurringBilling.Text.Utf8

/-- The bytes of a text. -/
def encode (s : List Char) : List UInt8 := s.flatMap String.utf8EncodeChar

/-- The bytes of a string. -/
def bytes (s : String) : List UInt8 := encode s.toList

/-- A byte that continues a character. -/
def isTail (b : UInt8) : Bool := 0x80 ≤ b && b ≤ 0xBF

/-- The payload of a continuation byte, below `2 ^ 6`. -/
def payload (b : UInt8) : Nat := b.toNat % 64

/-- The character of a well-formed sequence of two bytes. -/
def two? (a b : UInt8) : Option Char :=
  if 0xC2 ≤ a && a ≤ 0xDF && isTail b then
    some (Char.ofNat (a.toNat % 32 * 64 + payload b))
  else none

/-- The character of a well-formed sequence of three bytes. -/
def three? (a b c : UInt8) : Option Char :=
  let code := a.toNat % 16 * 4096 + payload b * 64 + payload c
  -- neither a longer spelling than needed nor a surrogate
  if 0xE0 ≤ a && a ≤ 0xEF && isTail b && isTail c
      && 0x800 ≤ code && !(0xD800 ≤ code && code ≤ 0xDFFF) then
    some (Char.ofNat code)
  else none

/-- The character of a well-formed sequence of four bytes. -/
def four? (a b c d : UInt8) : Option Char :=
  let code := a.toNat % 8 * 262144 + payload b * 4096 + payload c * 64 + payload d
  if 0xF0 ≤ a && a ≤ 0xF4 && isTail b && isTail c && isTail d
      && 0x10000 ≤ code && code ≤ 0x10FFFF then
    some (Char.ofNat code)
  else none

/-- The character that starts with byte `a` and goes on into `rest`, and the
number of bytes it takes from `rest`. -/
def charAt? (a : UInt8) (rest : List UInt8) : Option (Char × Nat) :=
  if a < 0x80 then some (Char.ofNat a.toNat, 0)
  else
    match rest with
    | [] => none
    | [b] => (two? a b).map (·, 1)
    | [b, c] => ((two? a b).map (·, 1)).or ((three? a b c).map (·, 2))
    | b :: c :: d :: _ =>
      (((two? a b).map (·, 1)).or ((three? a b c).map (·, 2))).or ((four? a b c d).map (·, 3))

/-- Decodes after passing over `skip` bytes that an earlier character took. -/
def decodeAfter : (skip : Nat) → List UInt8 → List (Option Char)
  | _, [] => []
  | skip + 1, _ :: rest => decodeAfter skip rest
  | 0, a :: rest =>
    match charAt? a rest with
    | some (ch, taken) => some ch :: decodeAfter taken rest
    | none => none :: decodeAfter 0 rest

/-- The characters of a byte sequence, with `none` for each byte that is part of
no well-formed character. -/
def decode (bytes : List UInt8) : List (Option Char) := decodeAfter 0 bytes

end RecurringBilling.Text.Utf8
