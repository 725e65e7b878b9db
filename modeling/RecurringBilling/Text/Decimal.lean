/-!
# Unsigned decimal numerals

Reading accepts one leading plus sign and any number of ASCII digits, leading
zeros included, as long as the number stays below a bound; the first offending
character decides between the two reasons for refusal.  Writing gives the
shortest numeral, `writePadded` fills it up with zeros on the left.
-/

namespace RecurringBilling.Text.Decimal

/-- Numbers of 32 bits are below this bound. -/
def bound32 : Nat := 0x100000000

/-- Numbers of 64 bits are below this bound. -/
def bound64 : Nat := 0x10000000000000000

/-- Why a text is no numeral below the bound. -/
inductive ReadError where
  | empty
  | invalidDigit
  | tooLarge
  deriving DecidableEq, Repr

/-- The sentence shown for a refused numeral. -/
def ReadError.message : ReadError → String
  | .empty => "cannot parse integer from empty string"
  | .invalidDigit => "invalid digit found in string"
  | .tooLarge => "number too large to fit in target type"

/-- The value of an ASCII digit. -/
def digitValue? (c : Char) : Option Nat :=
  if 48 ≤ c.toNat ∧ c.toNat ≤ 57 then some (c.toNat - 48) else none

/-- Continues a numeral whose digits so far have the value `value`. -/
def readDigits (bound value : Nat) : List Char → Except ReadError Nat
  | [] => .ok value
  | c :: rest =>
    match digitValue? c with
    | none => .error .invalidDigit
    | some d =>
      if value * 10 + d < bound then readDigits bound (value * 10 + d) rest
      else .error .tooLarge

/-- Reads a numeral below `bound`, with an optional plus sign in front.  A lone
sign is an invalid digit. -/
def read (bound : Nat) : List Char → Except ReadError Nat
  | [] => .error .empty
  | ['+'] => .error .invalidDigit
  | '+' :: rest => readDigits bound 0 rest
  | s => readDigits bound 0 s

/-- The shortest numeral of a number. -/
def write (n : Nat) : List Char := Nat.toDigits 10 n

/-- The numeral of a number in at least `width` digits. -/
def writePadded (width n : Nat) : List Char :=
  List.replicate (width - (write n).length) '0' ++ write n

/-- The numeral of a number, as a string. -/
def numeral (n : Nat) : String := String.ofList (write n)

/-- The numeral of an integer, with a minus sign where it is negative. -/
def writeInt (z : Int) : List Char :=
  if z < 0 then '-' :: write z.natAbs else write z.natAbs

theorem readDigits_nil (bound value : Nat) : readDigits bound value [] = .ok value := rfl

end RecurringBilling.Text.Decimal
