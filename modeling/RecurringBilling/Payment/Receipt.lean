import RecurringBilling.Calendar.Rfc3339
import RecurringBilling.Identifier
import RecurringBilling.Json.Value

/-!
# Receipts

A receipt stands for an accepted charge.  In JSON it is an object with one
member per field; a reader finds the fields in any order and passes over members
with other names, or takes a list of the fields in their order.
-/

namespace RecurringBilling

open RecurringBilling.Calendar

/-- An accepted charge. -/
structure Receipt where
  reference : String
  user : UserId
  cents : Nat
  currency : String
  chargedAt : Instant
  deriving DecidableEq

namespace Receipt

/-- The receipt in JSON. -/
def toJson (r : Receipt) : Json :=
  .object
    [("reference", .text r.reference), ("user_id", .nat r.user.value),
      ("amount_cents", .nat r.cents), ("currency", .text r.currency),
      ("charged_at", .text r.chargedAt.rfc3339)]

/-- The receipt of five field values. -/
def ofFields? (reference user cents currency chargedAt : Json) : Option Receipt := do
  let reference ← reference.text?
  let user ← user.unsigned?
  let cents ← cents.unsigned?
  let currency ← currency.text?
  let chargedAt ← chargedAt.text?.bind fun s => Rfc3339.read? s.toList
  return { reference, user := ⟨user⟩, cents, currency, chargedAt }

/-- Reads a receipt from JSON.  Each field must occur exactly once. -/
def ofJson? : Json → Option Receipt
  | .object members => do
    let reference ← Json.sole? "reference" members
    let user ← Json.sole? "user_id" members
    let cents ← Json.sole? "amount_cents" members
    let currency ← Json.sole? "currency" members
    let chargedAt ← Json.sole? "charged_at" members
    ofFields? reference user cents currency chargedAt
  | .list [reference, user, cents, currency, chargedAt] =>
    ofFields? reference user cents currency chargedAt
  | _ => none

end Receipt

end RecurringBilling
