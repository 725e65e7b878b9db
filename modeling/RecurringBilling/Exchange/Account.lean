import RecurringBilling.Exchange.Time
import RecurringBilling.Identity.Account

/-!
# Accounts in JSON
-/

namespace RecurringBilling.UserAccount

open RecurringBilling.Calendar RecurringBilling.Json

/-- Reads an account, new or stored, and checks it. -/
def ofMembers? (o : Members) (now : Instant) : Option (Except IdentityError UserAccount) := do
  let name ← o.required "name" text?
  let email ← o.required "email" text?
  let hash ← o.required "password_hash" text?
  match ← o.optional "id" unsigned? with
  | none => return create name email hash now
  | some id =>
    let activated ← o.required "activated" bool?
    let createdAt ← o.required "created_at" Instant.ofPair?
    let updatedAt ← o.required "updated_at" Instant.ofPair?
    return restore ⟨id⟩ name email hash activated createdAt updatedAt

/-- The account in JSON. -/
def toJson (a : UserAccount) : Json :=
  .object
    [("id", .nat a.id.value), ("name", .text a.name.text), ("email", .text a.email.text),
      ("domain", .text a.email.domain), ("password_hash", .text a.passwordHash),
      ("activated", .bool a.activated), ("created_at", a.createdAt.toJson),
      ("updated_at", a.updatedAt.toJson)]

end RecurringBilling.UserAccount
