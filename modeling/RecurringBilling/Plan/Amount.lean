/-!
# Amounts of money

Amounts count cents, up to 9 999 999.99.
-/

namespace RecurringBilling

/-- The greatest number of cents. -/
def maxCents : Nat := 999999999

/-- An amount of money. -/
structure Amount where
  cents : Nat
  cents_le : cents ≤ maxCents
  deriving DecidableEq, Repr

/-- The amount of a number of cents, if it is not too large. -/
def Amount.ofCents? (cents : Nat) : Option Amount :=
  if h : cents ≤ maxCents then some ⟨cents, h⟩ else none

end RecurringBilling
