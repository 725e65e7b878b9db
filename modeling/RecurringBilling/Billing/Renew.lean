import RecurringBilling.Billing.Change
import RecurringBilling.Billing.Period

/-!
# Renewing

An active subscription that renews itself goes on for one more period of its
plan, counted from the end of the present one, or from its start if it has no
end.  The period is charged first.  A declined charge leaves the subscription
past due with its end where it was; a charge for a period that could not be
stored is refunded.
-/

namespace RecurringBilling

open RecurringBilling.Calendar

/-- A renewed subscription, the receipt for the new period and the end of the
one before. -/
structure Renewed where
  subscription : Subscription
  receipt : Receipt
  previousEnd : Option Instant
  deriving DecidableEq

namespace Renew

/-- The new period could not be stored: gives back what was charged.  Whether
that succeeds does not change the outcome. -/
def giveUp (e : BillingError) (receipt : Receipt) : Program (Except BillingError Renewed) :=
  .call (.refund receipt) fun _ => .done (.error e)

/-- The charge was declined: the subscription is past due. -/
def decline (before : Subscription) (reason : String) : Program (Except BillingError Renewed) :=
  .call .clock fun now =>
    match before.updateStatus SubscriptionStatus.pastDue.code now with
    | (.error e, _) => .done (.error e)
    | (.ok (), after) =>
      .call (.updateSubscription after) fun
        | .error f => .done (.error (.ofUpdate after.id after.user f))
        | .ok () => .done (.error (.paymentFailed reason))

/-- The charge was accepted: moves the end of the subscription. -/
def extend (before : Subscription) (nextEnd : Instant) (receipt : Receipt) :
    Program (Except BillingError Renewed) :=
  .call .clock fun now =>
    match before.updateEndDate nextEnd now with
    | (.error e, _) => giveUp e receipt
    | (.ok (), after) =>
      .call (.updateSubscription after) fun
        | .error f => giveUp (.ofUpdate after.id after.user f) receipt
        | .ok () => .done (.ok { subscription := after, receipt, previousEnd := before.endDate })

/-- Charges the next period. -/
def charge (before : Subscription) (plan : Plan) (nextEnd : Instant) :
    Program (Except BillingError Renewed) :=
  .call (.charge before plan) fun
    | .error f =>
      if f.code = .paymentFailed then decline before f.message
      else .done (.error (.ofFailure f))
    | .ok receipt => extend before nextEnd receipt

/-- The instant at which the next period starts. -/
def nextStart (before : Subscription) : Instant := before.endDate.getD before.startDate

/-- Finds out when the next period ends. -/
def plan (before : Subscription) : Program (Except BillingError Renewed) :=
  .call (.findPlan before.plan) fun
    | .error f => .done (.error (.ofFailure f))
    | .ok none => .done (.error (.planNotFound before.plan))
    | .ok (some plan) =>
      match periodEnd? (nextStart before) plan.terms.interval with
      | none => .done (.error (.infrastructure "renewal period ends outside the calendar"))
      | some nextEnd => charge before plan nextEnd

end Renew

/-- Renews a subscription for one period. -/
def renew (id : SubscriptionId) : Program (Except BillingError Renewed) :=
  withSubscription id fun before =>
    if !before.isActive then .done (.error (.wrongState before.status.code "renew"))
    else if !before.autoRenew then .done (.error (.autoRenewOff before.id))
    else Renew.plan before

end RecurringBilling
