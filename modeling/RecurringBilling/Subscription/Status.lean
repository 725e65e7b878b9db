import RecurringBilling.Json.Value

/-!
# Subscription statuses

Only an active subscription gives access and can be renewed.
-/

namespace RecurringBilling

/-- Where a subscription stands. -/
inductive SubscriptionStatus where
  | active
  | inactive
  | cancelled
  | expired
  | pastDue
  deriving DecidableEq, Repr

namespace SubscriptionStatus

/-- The word for the status. -/
def code : SubscriptionStatus → String
  | .active => "Active"
  | .inactive => "Inactive"
  | .cancelled => "Cancelled"
  | .expired => "Expired"
  | .pastDue => "PastDue"

/-- The status that a word stands for, letter by letter. -/
def ofCode? (code : String) : Option SubscriptionStatus :=
  if code = "Active" then some .active
  else if code = "Inactive" then some .inactive
  else if code = "Cancelled" then some .cancelled
  else if code = "Expired" then some .expired
  else if code = "PastDue" then some .pastDue
  else none

/-- The status gives access. -/
def isActive (s : SubscriptionStatus) : Bool := s == .active

/-- Reads the status from JSON. -/
def ofJson? (v : Json) : Option SubscriptionStatus := v.caseName?.bind ofCode?

theorem ofCode?_code (s : SubscriptionStatus) : ofCode? s.code = some s := by
  cases s <;> decide

end SubscriptionStatus

end RecurringBilling
