/-!
# Base 64 without padding

Three bytes are written as four digits, a rest of one or two bytes as two or
three digits.  Reading is exact: it accepts what writing produces and nothing
else, so the unused low bits of the last digit must be zero and padding is
refused.  The last two digits of the alphabet are a parameter.
-/

namespace RecurringBilling.Text.Base64

/-- The two digits in which alphabets differ. -/
structure Alphabet where
  digit62 : Char
  digit63 : Char
  deriving DecidableEq, Repr

/-- The alphabet that is safe in addresses and file names. -/
def Alphabet.url : Alphabet := ⟨'-', '_'⟩

/-- The standard alphabet. -/
def Alphabet.standard : Alphabet := ⟨'+', '/'⟩

namespace Alphabet

/-- The digit of a value below 64. -/
def digit (alphabet : Alphabet) (n : Nat) : Char :=
  if n < 26 then Char.ofNat (65 + n)
  else if n < 52 then Char.ofNat (71 + n)
  else if n < 62 then Char.ofNat (n - 4)
  else if n = 62 then alphabet.digit62
  else alphabet.digit63

/-- The value of a digit. -/
def value? (alphabet : Alphabet) (c : Char) : Option Nat :=
  if 65 ≤ c.toNat ∧ c.toNat ≤ 90 then some (c.toNat - 65)
  else if 97 ≤ c.toNat ∧ c.toNat ≤ 122 then some (c.toNat - 71)
  else if 48 ≤ c.toNat ∧ c.toNat ≤ 57 then some (c.toNat + 4)
  else if c = alphabet.digit62 then some 62
  else if c = alphabet.digit63 then some 63
  else none

end Alphabet

/-- Writes bytes as digits. -/
def encode (alphabet : Alphabet) : List UInt8 → List Char
  | a :: b :: c :: rest =>
    alphabet.digit (a.toNat / 4)
      :: alphabet.digit (a.toNat % 4 * 16 + b.toNat / 16)
      :: alphabet.digit (b.toNat % 16 * 4 + c.toNat / 64)
      :: alphabet.digit (c.toNat % 64)
      :: encode alphabet rest
  | [a, b] =>
    [alphabet.digit (a.toNat / 4),
      alphabet.digit (a.toNat % 4 * 16 + b.toNat / 16),
      alphabet.digit (b.toNat % 16 * 4)]
  | [a] => [alphabet.digit (a.toNat / 4), alphabet.digit (a.toNat % 4 * 16)]
  | [] => []

/-- Reads digits as bytes. -/
def decode (alphabet : Alphabet) : List Char → Option (List UInt8)
  | a :: b :: c :: d :: rest =>
    match alphabet.value? a, alphabet.value? b, alphabet.value? c, alphabet.value? d with
    | some w, some x, some y, some z =>
      (decode alphabet rest).map fun bytes =>
        UInt8.ofNat (w * 4 + x / 16)
          :: UInt8.ofNat (x % 16 * 16 + y / 4)
          :: UInt8.ofNat (y % 4 * 64 + z)
          :: bytes
    | _, _, _, _ => none
  | [a, b, c] =>
    match alphabet.value? a, alphabet.value? b, alphabet.value? c with
    | some w, some x, some y =>
      if y % 4 = 0 then
        some [UInt8.ofNat (w * 4 + x / 16), UInt8.ofNat (x % 16 * 16 + y / 4)]
      else none
    | _, _, _ => none
  | [a, b] =>
    match alphabet.value? a, alphabet.value? b with
    | some w, some x => if x % 16 = 0 then some [UInt8.ofNat (w * 4 + x / 16)] else none
    | _, _ => none
  | [_] => none
  | [] => some []

end RecurringBilling.Text.Base64
