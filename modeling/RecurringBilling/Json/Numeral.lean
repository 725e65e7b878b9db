import RecurringBilling.Json.Value
import RecurringBilling.Text.Decimal

/-!
# Numerals

A numeral that is a plain integer of 64 bits has that integer as its value.  Any
other numeral stands for a 64-bit floating point number and must not lie beyond
the range of those.  Its size is judged on a shortened form: the leading digits,
as long as they make up a number of 64 bits, times a power of ten.

An exponent whose digits make up more than 31 bits is beyond all range as soon as
that shows, so that further digits are left over.
-/

namespace RecurringBilling.Json

open RecurringBilling.Text

/-- A numeral in its parts: a sign, the digits before and after the point, and the
sign and the digits of the exponent. -/
structure Numeral where
  negative : Bool
  whole : List Char
  fraction : List Char
  exponent : Option (Bool × List Char)
  deriving DecidableEq, Repr

namespace Numeral

/-! ## Grammar -/

/-- The digits a text starts with, and what follows them. -/
def spanDigits (s : List Char) : List Char × List Char :=
  (s.takeWhile Char.isDigit, s.dropWhile Char.isDigit)

/-- The digits before the point: `0`, or digits without a leading zero. -/
def whole? (s : List Char) : Option (List Char × List Char) :=
  match spanDigits s with
  | ([], _) => none
  | ('0' :: _ :: _, _) => none
  | (digits, rest) => some (digits, rest)

/-- The digits after the point, none where there is no point. -/
def fraction? : List Char → Option (List Char × List Char)
  | '.' :: rest =>
    match spanDigits rest with
    | ([], _) => none
    | (digits, rest') => some (digits, rest')
  | s => some ([], s)

/-- A sign, which says whether a minus stands there, and what follows it. -/
def signOf : List Char → Bool × List Char
  | '+' :: rest => (false, rest)
  | '-' :: rest => (true, rest)
  | s => (false, s)

/-- The exponent, with which the numeral ends. -/
def exponent? : List Char → Option (Option (Bool × List Char))
  | [] => some none
  | e :: rest =>
    if e = 'e' || e = 'E' then
      match spanDigits (signOf rest).2 with
      | (c :: digits, []) => some (some ((signOf rest).1, c :: digits))
      | _ => none
    else none

/-- What follows a leading minus sign, and whether there is one. -/
def minus : List Char → Bool × List Char
  | '-' :: rest => (true, rest)
  | s => (false, s)

/-- The parts of a numeral. -/
def ofChars? (s : List Char) : Option Numeral := do
  let (negative, s) := minus s
  let (whole, s) ← whole? s
  let (fraction, s) ← fraction? s
  let exponent ← exponent? s
  return { negative, whole, fraction, exponent }

/-! ## Integers -/

/-- The value of a digit. -/
def digitValue (c : Char) : Nat := c.toNat - 48

/-- The value of a run of decimal digits. -/
def digitsValue (digits : List Char) : Nat :=
  digits.foldl (fun n c => n * 10 + digitValue c) 0

/-- The integer that a plain numeral of 64 bits denotes.  Minus zero is not an
integer. -/
def integer? (n : Numeral) : Option Int :=
  let magnitude : Int := digitsValue n.whole
  let z := if n.negative then -magnitude else magnitude
  if n.fraction.isEmpty && n.exponent.isNone && !(n.negative && magnitude == 0)
      && minInteger ≤ z && z ≤ maxInteger then
    some z
  else none

/-! ## Range -/

/-- A number times a power of ten. -/
structure Scaled where
  significand : Nat
  exponent : Int
  deriving DecidableEq, Repr

/-- Takes up digits before the point.  Once the significand is full, each digit is
a power of ten. -/
def takeWhole : Scaled → List Char → Scaled
  | s, [] => s
  | s, c :: rest =>
    let next := s.significand * 10 + digitValue c
    if s.exponent = 0 ∧ next < Decimal.bound64 then takeWhole ⟨next, 0⟩ rest
    else takeWhole ⟨s.significand, s.exponent + 1⟩ rest

/-- Takes up digits after the point until the significand is full. -/
def takeFraction : Scaled → List Char → Scaled
  | s, [] => s
  | s, c :: rest =>
    let next := s.significand * 10 + digitValue c
    if next < Decimal.bound64 then takeFraction ⟨next, s.exponent - 1⟩ rest else s

/-- The shortened form of the digits of a numeral. -/
def scaled (n : Numeral) : Scaled := takeFraction (takeWhole ⟨0, 0⟩ n.whole) n.fraction

/-- The greatest exponent that is read to its end. -/
def maxExponent : Nat := 2147483647

/-- Reads the digits of an exponent.  Where it grows too large, gives the digits
left over. -/
def readExponent : Nat → List Char → Except (List Char) Nat
  | n, [] => .ok n
  | n, c :: rest =>
    let next := n * 10 + digitValue c
    if next ≤ maxExponent then readExponent next rest else .error rest

/-- The floating point number nearest to a natural number, as far as its precision
of 53 bits goes; of two nearest ones the even one. -/
def nearest (n : Nat) : Nat :=
  -- the place of the last of the 53 bits that are kept
  let unit := Nat.pow 2 (Nat.log2 n - 52)
  let quotient := n / unit
  let rest := n % unit
  if 2 * rest < unit ∨ (2 * rest = unit ∧ quotient % 2 = 0) then quotient * unit
  else (quotient + 1) * unit

/-- The least number that is rounded to infinity. -/
def infinity : Nat := Nat.pow 2 1024 - Nat.pow 2 970

/-- The greatest power of ten in the range. -/
def maxPower : Int := 308

/-- The number lies beyond the range.  Significand and power are rounded each on
its own, and then their product. -/
def isBeyondRange (s : Scaled) : Bool :=
  s.significand != 0
    && (maxPower < s.exponent
      || (0 ≤ s.exponent
        && infinity ≤ nearest s.significand * nearest (Nat.pow 10 s.exponent.toNat)))

/-- The flaw of a number beyond the range, which has been read to its end. -/
def rangeFlaw? (s : Scaled) : Option Flaw := if isBeyondRange s then some .atEnd else none

/-- The flaw of a numeral. -/
def flaw? (n : Numeral) : Option Flaw :=
  match n.exponent with
  | none => rangeFlaw? n.scaled
  | some (negative, digits) =>
    match readExponent 0 digits with
    | .ok e =>
      let shift : Int := e
      rangeFlaw?
        ⟨n.scaled.significand, n.scaled.exponent + (if negative then -shift else shift)⟩
    -- so large an exponent leads beyond the range, or else to zero
    | .error rest =>
      if negative || n.scaled.significand == 0 then none
      else if rest.isEmpty then some .atEnd
      else some .inside

/-- The value of a numeral; none where the spelling is no numeral. -/
def value? (spelling : List Char) : Option Json :=
  (ofChars? spelling).map fun n =>
    match n.integer? with
    | some z => .integer z
    | none =>
      match n.flaw? with
      | some flaw => .flawed flaw
      | none => .decimal (String.ofList spelling)

end Numeral

example : (Numeral.ofChars? ['-', '1', '.', '5', 'e', '2']).bind Numeral.integer? = none := by decide
example : (Numeral.ofChars? ['-', '1', '2']).bind Numeral.integer? = some (-12) := by decide

end RecurringBilling.Json
