import RecurringBilling.Program.Basic

/-!
# Changing a subscription

A change loads the subscription, applies itself and stores the result as a
whole.
-/

namespace RecurringBilling

open RecurringBilling.Calendar

/-- Loads a subscription that must exist. -/
def withSubscription {α : Type} (id : SubscriptionId)
    (next : Subscription → Program (Except BillingError α)) : Program (Except BillingError α) :=
  .call (.findSubscription id) fun
    | .error f => .done (.error (.ofFailure f))
    | .ok none => .done (.error (.subscriptionNotFound id))
    | .ok (some subscription) => next subscription

/-- Stores a changed subscription and ends with a result. -/
def saveSubscription {α : Type} (subscription : Subscription) (result : α) :
    Program (Except BillingError α) :=
  .call (.updateSubscription subscription) fun
    | .error f => .done (.error (.ofUpdate subscription.id subscription.user f))
    | .ok () => .done (.ok result)

/-- Changes a subscription that must exist, at a reading of the clock. -/
def changeSubscription {α : Type} (id : SubscriptionId)
    (change : Subscription → Instant → Except BillingError Unit × Subscription)
    (result : (before after : Subscription) → α) : Program (Except BillingError α) :=
  withSubscription id fun before =>
    .call .clock fun now =>
      match change before now with
      | (.error e, _) => .done (.error e)
      | (.ok (), after) => saveSubscription after (result before after)

/-- A subscription after a change of its status, and the status before. -/
structure StatusChanged where
  subscription : Subscription
  previous : SubscriptionStatus
  deriving DecidableEq

/-- Gives a subscription the status that a word names. -/
def changeStatus (id : SubscriptionId) (code : String) :
    Program (Except BillingError StatusChanged) :=
  changeSubscription id (fun before now => before.updateStatus code now) fun before after =>
    { subscription := after, previous := before.status }

/-- Turns the renewal of a subscription on or off. -/
def changeAutoRenew (id : SubscriptionId) (autoRenew : Bool) :
    Program (Except BillingError Subscription) :=
  changeSubscription id (fun before now => (.ok (), before.setAutoRenew autoRenew now))
    fun _ after => after

end RecurringBilling
