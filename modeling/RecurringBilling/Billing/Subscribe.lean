import RecurringBilling.Billing.Period
import RecurringBilling.Program.Basic

/-!
# Subscribing

A user without an active subscription subscribes to a plan.  The first period is
charged before the subscription is stored, unless the plan opens with a trial; a
charge for a subscription that could not be stored is refunded.  The store has
the last word on whether the user is free, so two attempts of one user at the
same time cannot both succeed.
-/

namespace RecurringBilling

open RecurringBilling.Calendar

/-- A new subscription, and the receipt of its first period if that was
charged. -/
structure Subscribed where
  subscription : Subscription
  receipt : Option Receipt
  deriving DecidableEq

namespace Subscribe

/-- The subscription could not be stored: gives back what was charged.  Whether
that succeeds does not change the outcome. -/
def giveUp (e : BillingError) : Option Receipt → Program (Except BillingError Subscribed)
  | none => .done (.error e)
  | some receipt => .call (.refund receipt) fun _ => .done (.error e)

/-- Stores the subscription. -/
def store (subscription : Subscription) (receipt : Option Receipt) :
    Program (Except BillingError Subscribed) :=
  .call (.createSubscription subscription) fun
    | .error f => giveUp (.ofCreation subscription.user f) receipt
    | .ok stored => .done (.ok { subscription := stored, receipt })

/-- Charges the first period unless there is a trial. -/
def charge (subscription : Subscription) (plan : Plan) :
    Program (Except BillingError Subscribed) :=
  if plan.terms.trial.isSome then store subscription none
  else
    .call (.charge subscription plan) fun
      | .error f => .done (.error (.ofCharge f))
      | .ok receipt => store subscription (some receipt)

/-- Starts the first period now. -/
def start (user : UserId) (planId : PlanId) (plan : Plan) :
    Program (Except BillingError Subscribed) :=
  .call .clock fun startDate =>
    -- the period starts at the first reading, the stamps are those of the second
    .call .clock fun now =>
      let draft : SubscriptionDraft :=
        { user, plan := planId, startDate, endDate := periodEnd? startDate plan.terms.interval }
      match Subscription.create draft now with
      | .error e => .done (.error e)
      | .ok subscription => charge subscription plan

/-- Makes sure that the user is free. -/
def checkFree (user : UserId) (planId : PlanId) (plan : Plan) :
    Program (Except BillingError Subscribed) :=
  .call (.findActiveSubscription user) fun
    | .error f => .done (.error (.ofFailure f))
    | .ok (some _) => .done (.error (.alreadySubscribed user))
    | .ok none => start user planId plan

end Subscribe

/-- Subscribes a user to a plan. -/
def subscribe (user : UserId) (planId : PlanId) : Program (Except BillingError Subscribed) :=
  if !user.isAssigned then .done (.error .userIdMissing)
  else if !planId.isAssigned then .done (.error .planIdMissing)
  else
    .call (.findPlan planId) fun
      | .error f => .done (.error (.ofFailure f))
      | .ok none => .done (.error (.planNotFound planId))
      | .ok (some plan) => Subscribe.checkFree user planId plan

end RecurringBilling
