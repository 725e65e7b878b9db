import RecurringBilling.Exchange.Time
import RecurringBilling.Table.SubscriptionRow

/-!
# Subscriptions in JSON

A subscription is taken as a draft, or as a stored subscription when there is an
identifier.
-/

namespace RecurringBilling

open RecurringBilling.Calendar RecurringBilling.Json

/-- Reads a draft. -/
def SubscriptionDraft.ofMembers? (o : Members) : Option SubscriptionDraft := do
  let user ← o.required "user_id" unsigned?
  let plan ← o.required "plan_id" unsigned?
  let startDate ← o.required "start_date" Instant.ofPair?
  let endDate ← o.optional "end_date" Instant.ofPair?
  return { user := ⟨user⟩, plan := ⟨plan⟩, startDate, endDate }

namespace Subscription

/-- Reads a subscription, new or stored, and checks it. -/
def ofMembers? (o : Members) (now : Instant) : Option (Except BillingError Subscription) := do
  let draft ← SubscriptionDraft.ofMembers? o
  match ← o.optional "id" unsigned? with
  | none => return create draft now
  | some id =>
    let status ← o.required "status" text?
    let autoRenew ← o.required "auto_renew" bool?
    let createdAt ← o.required "created_at" Instant.ofPair?
    let updatedAt ← o.required "updated_at" Instant.ofPair?
    return restore ⟨id⟩ draft status autoRenew createdAt updatedAt

/-- The subscription in JSON. -/
def toJson (s : Subscription) : Json :=
  .object
    [("id", .nat s.id.value), ("user_id", .nat s.user.value), ("plan_id", .nat s.plan.value),
      ("status", .text s.status.code), ("start_date", s.startDate.toJson),
      ("end_date", ofOption Instant.toJson s.endDate), ("auto_renew", .bool s.autoRenew),
      ("created_at", s.createdAt.toJson), ("updated_at", s.updatedAt.toJson)]

end Subscription

namespace SubscriptionRow

/-- Reads a row. -/
def ofMembers? (o : Members) : Option SubscriptionRow := do
  let id ← o.required "id" fun v => v.signed?.bind Signed.ofInt?
  let user ← o.required "user_id" fun v => v.signed?.bind Signed.ofInt?
  let plan ← o.required "plan_id" fun v => v.signed?.bind Signed.ofInt?
  let status ← o.required "status" text?
  let startDate ← o.required "start_date" Instant.ofPair?
  let endDate ← o.optional "end_date" Instant.ofPair?
  let autoRenew ← o.required "auto_renew" bool?
  let createdAt ← o.required "created_at" Instant.ofPair?
  let updatedAt ← o.required "updated_at" Instant.ofPair?
  return { id, user, plan, status, startDate, endDate, autoRenew, createdAt, updatedAt }

/-- The row in JSON. -/
def toJson (r : SubscriptionRow) : Json :=
  .object
    [("id", .integer r.id.value), ("user_id", .integer r.user.value),
      ("plan_id", .integer r.plan.value), ("status", .text r.status),
      ("start_date", r.startDate.toJson), ("end_date", ofOption Instant.toJson r.endDate),
      ("auto_renew", .bool r.autoRenew), ("created_at", r.createdAt.toJson),
      ("updated_at", r.updatedAt.toJson)]

end SubscriptionRow

end RecurringBilling
