import RecurringBilling.Exchange.Time
import RecurringBilling.Table.PlanRow

/-!
# Plans in JSON

A plan is taken as a draft.  With an identifier beside it the draft is that of a
stored plan and comes with the instants of its creation and last change.
-/

namespace RecurringBilling

open RecurringBilling.Calendar RecurringBilling.Json

/-- Reads a draft. -/
def PlanDraft.ofMembers? (o : Members) : Option PlanDraft := do
  let name ← o.required "name" text?
  let description ← o.optional "description" text?
  let cents ← o.required "amount_cents" unsigned?
  let currency ← o.required "currency" text?
  let trialDays ← o.optional "trial_period_days" unsigned32?
  let interval ← o.required "interval" text?
  return { name, description, cents, currency, trialDays, interval }

namespace Plan

/-- Reads a plan, new or stored, and checks it. -/
def ofMembers? (o : Members) (now : Instant) : Option (Except BillingError Plan) := do
  let draft ← PlanDraft.ofMembers? o
  match ← o.optional "id" unsigned? with
  | none => return create draft now
  | some id =>
    let createdAt ← o.required "created_at" Instant.ofPair?
    let updatedAt ← o.required "updated_at" Instant.ofPair?
    return restore ⟨id⟩ draft createdAt updatedAt

/-- The plan in JSON. -/
def toJson (p : Plan) : Json :=
  .object
    [("id", .nat p.id.value), ("name", .text p.terms.name.text),
      ("description", ofOption (fun d => .text d.text) p.terms.description),
      ("amount", .nat p.terms.amount.cents), ("currency", .text p.terms.currency.code),
      ("interval", .text p.terms.interval.code),
      ("trial_period", ofOption (fun t => .nat t.days) p.terms.trial),
      ("created_at", p.createdAt.toJson), ("updated_at", p.updatedAt.toJson)]

end Plan

namespace PlanRow

/-- Reads a row. -/
def ofMembers? (o : Members) : Option PlanRow := do
  let id ← o.required "id" fun v => v.signed?.bind Signed.ofInt?
  let name ← o.required "name" text?
  let description ← o.optional "description" text?
  let cents ← o.required "amount_cents" fun v => v.signed?.bind Signed.ofInt?
  let currency ← o.required "currency" text?
  let interval ← o.required "interval" text?
  let trialDays ← o.optional "trial_period" fun v => v.signed?.bind Signed.ofInt?
  let createdAt ← o.required "created_at" Instant.ofPair?
  let updatedAt ← o.required "updated_at" Instant.ofPair?
  return { id, name, description, cents, currency, interval, trialDays, createdAt, updatedAt }

/-- The row in JSON. -/
def toJson (r : PlanRow) : Json :=
  .object
    [("id", .integer r.id.value), ("name", .text r.name),
      ("description", ofOption .text r.description), ("amount_cents", .integer r.cents.value),
      ("currency", .text r.currency), ("interval", .text r.interval),
      ("trial_period", ofOption (fun c => .integer c.value) r.trialDays),
      ("created_at", r.createdAt.toJson), ("updated_at", r.updatedAt.toJson)]

end PlanRow

end RecurringBilling
