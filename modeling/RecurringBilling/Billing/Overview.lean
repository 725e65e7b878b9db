import RecurringBilling.Program.Basic

/-!
# The subscriptions of a user
-/

namespace RecurringBilling

/-- Lists every subscription of a user, whatever its status. -/
def listSubscriptions (user : UserId) : Program (Except BillingError (List Subscription)) :=
  if !user.isAssigned then .done (.error .userIdMissing)
  else
    .call (.listSubscriptions user) fun
      | .error f => .done (.error (.ofFailure f))
      | .ok subscriptions => .done (.ok subscriptions)

/-- The active subscription in a list. -/
def activeAmong (subscriptions : List Subscription) : Option Subscription :=
  subscriptions.find? (·.isActive)

end RecurringBilling
