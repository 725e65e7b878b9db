import RecurringBilling.Subscription.Basic
import RecurringBilling.Table.Column

/-!
# Rows of the subscription table

A subscription is written column by column and read back through the same checks
as a stored one.
-/

namespace RecurringBilling

open RecurringBilling.Calendar RecurringBilling.Text

/-- A row of the subscription table. -/
structure SubscriptionRow where
  id : BigColumn
  user : BigColumn
  plan : BigColumn
  status : String
  startDate : Instant
  endDate : Option Instant
  autoRenew : Bool
  createdAt : Instant
  updatedAt : Instant
  deriving DecidableEq

namespace SubscriptionRow

/-- Writes a subscription. -/
def ofSubscription (s : Subscription) : Except Failure SubscriptionRow :=
  match BigColumn.ofNat "id" s.id.value with
  | .error f => .error f
  | .ok id =>
    match BigColumn.ofNat "user_id" s.user.value with
    | .error f => .error f
    | .ok user =>
      match BigColumn.ofNat "plan_id" s.plan.value with
      | .error f => .error f
      | .ok plan =>
        .ok
          { id
            user
            plan
            status := s.status.code
            startDate := s.startDate
            endDate := s.endDate
            autoRenew := s.autoRenew
            createdAt := s.createdAt
            updatedAt := s.updatedAt }

/-- Reads a subscription.  A row whose numbers can be read but whose subscription
breaks a rule is named by its identifier. -/
def toSubscription (r : SubscriptionRow) : Except Failure Subscription :=
  match BigColumn.toNat "user_id" r.user with
  | .error f => .error f
  | .ok user =>
    match BigColumn.toNat "plan_id" r.plan with
    | .error f => .error f
    | .ok plan =>
      match BigColumn.toNat "id" r.id with
      | .error f => .error f
      | .ok id =>
        let draft : SubscriptionDraft :=
          { user := ⟨user⟩, plan := ⟨plan⟩, startDate := r.startDate, endDate := r.endDate }
        match Subscription.restore ⟨id⟩ draft r.status r.autoRenew r.createdAt r.updatedAt with
        | .error e => .error (e.toFailure.withDetail "subscription_id" r.id.numeral)
        | .ok s => .ok s

end SubscriptionRow

end RecurringBilling
