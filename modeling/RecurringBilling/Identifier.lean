import RecurringBilling.Text.Blank
import RecurringBilling.Text.Decimal

/-!
# Identifiers

Plans, subscriptions and users are known by numbers that the stores assign,
starting from 1.  Zero marks what has not been stored yet.  Every reader of an
identifier admits 64 bits at most.
-/

namespace RecurringBilling

open RecurringBilling.Text

/-- The number of identifiers that a reader admits. -/
def identifierBound : Nat := Decimal.bound64

/-- The identifier of a plan. -/
structure PlanId where
  value : Nat
  deriving DecidableEq, Repr, Inhabited

/-- The identifier of a subscription. -/
structure SubscriptionId where
  value : Nat
  deriving DecidableEq, Repr, Inhabited

/-- The identifier of a user. -/
structure UserId where
  value : Nat
  deriving DecidableEq, Repr, Inhabited

/-- Not stored yet. -/
def PlanId.unassigned : PlanId := ⟨0⟩

/-- Not stored yet. -/
def SubscriptionId.unassigned : SubscriptionId := ⟨0⟩

/-- Not stored yet. -/
def UserId.unassigned : UserId := ⟨0⟩

/-- A store has assigned the identifier. -/
def PlanId.isAssigned (id : PlanId) : Bool := id.value != 0

/-- A store has assigned the identifier. -/
def SubscriptionId.isAssigned (id : SubscriptionId) : Bool := id.value != 0

/-- A store has assigned the identifier. -/
def UserId.isAssigned (id : UserId) : Bool := id.value != 0

/-- The identifier in decimal. -/
def PlanId.numeral (id : PlanId) : String := Decimal.numeral id.value

/-- The identifier in decimal. -/
def SubscriptionId.numeral (id : SubscriptionId) : String := Decimal.numeral id.value

/-- The identifier in decimal. -/
def UserId.numeral (id : UserId) : String := Decimal.numeral id.value

/-- Reads the number of an identifier, with blanks around it. -/
def readIdentifier (s : List Char) : Except Decimal.ReadError Nat :=
  Decimal.read identifierBound (trim s)

end RecurringBilling
