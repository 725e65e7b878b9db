import RecurringBilling.Text.Decimal

/-!
# Trial periods

A trial lasts from one to thirty days.
-/

namespace RecurringBilling

open RecurringBilling.Text

/-- The longest trial. -/
def maxTrialDays : Nat := 30

/-- A number of days without charge at the start of a subscription. -/
structure TrialPeriod where
  days : Nat
  days_pos : 1 ≤ days
  days_le : days ≤ maxTrialDays
  deriving DecidableEq, Repr

namespace TrialPeriod

/-- The rule that a number of days breaks. -/
inductive Flaw where
  | tooShort
  | tooLong
  deriving DecidableEq, Repr

/-- The rule in words. -/
def Flaw.message : Flaw → String
  | .tooShort => "trial period must be at least 1 day"
  | .tooLong => "trial period cannot exceed 30 days"

/-- The trial of a number of days. -/
def ofDays (days : Nat) : Except Flaw TrialPeriod :=
  if h₁ : 1 ≤ days then
    if h₂ : days ≤ maxTrialDays then .ok ⟨days, h₁, h₂⟩ else .error .tooLong
  else .error .tooShort

/-- The trial in words. -/
def display (t : TrialPeriod) : String := Decimal.numeral t.days ++ " days"

end TrialPeriod

end RecurringBilling
