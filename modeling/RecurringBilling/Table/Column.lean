import RecurringBilling.Failure
import RecurringBilling.Text.Decimal

/-!
# Signed columns

A table keeps numbers in signed columns of a fixed width.  Numbers of the domain
are natural; writing one may fail because it is too large, reading one because
it is negative.  Either failure names the field.
-/

namespace RecurringBilling

open RecurringBilling.Text

/-- An integer of a signed column: at least `-bound` and less than `bound`. -/
structure Signed (bound : Nat) where
  value : Int
  lower : -(bound : Int) ≤ value
  upper : value < (bound : Int)
  deriving DecidableEq

/-- The wide column of a table. -/
abbrev BigColumn := Signed 0x8000000000000000

/-- The narrow column of a table. -/
abbrev SmallColumn := Signed 0x80000000

namespace Signed

/-- The integer in a column, if it fits. -/
def ofInt? {bound : Nat} (z : Int) : Option (Signed bound) :=
  if h : -(bound : Int) ≤ z ∧ z < (bound : Int) then some ⟨z, h.1, h.2⟩ else none

/-- The column that holds a natural number, if it fits. -/
def ofNat? {bound : Nat} (n : Nat) : Option (Signed bound) :=
  if h : n < bound then some ⟨n, by omega, by omega⟩ else none

/-- The column's integer in decimal. -/
def numeral {bound : Nat} (c : Signed bound) : String := String.ofList (Decimal.writeInt c.value)

end Signed

namespace BigColumn

/-- Writes a number of the domain. -/
def ofNat (field : String) (n : Nat) : Except Failure BigColumn :=
  match Signed.ofNat? n with
  | some c => .ok c
  | none => .error (.invalidField field (field ++ " out of range: " ++ Decimal.numeral n))

/-- Reads a number of the domain. -/
def toNat (field : String) (c : BigColumn) : Except Failure Nat :=
  if 0 ≤ c.value then .ok c.value.toNat
  else .error (.invalidField field ("negative " ++ field ++ ": " ++ c.numeral))

end BigColumn

end RecurringBilling
