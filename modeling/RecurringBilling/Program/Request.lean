import RecurringBilling.Payment.Receipt
import RecurringBilling.Plan.Basic
import RecurringBilling.Identity.Account
import RecurringBilling.Failure
import RecurringBilling.Subscription.Basic

/-!
# Requests

A use case does not hold a store, a ledger or a clock; it asks for what it
needs.  A request is one such question, asked and answered in one step, and its
answer has a type of its own.
-/

namespace RecurringBilling

open RecurringBilling.Calendar

/-- A question of a use case to its surroundings. -/
inductive Request where
  | clock
  | createPlan (plan : Plan)
  | findPlan (id : PlanId)
  | listPlans
  | createSubscription (subscription : Subscription)
  | updateSubscription (subscription : Subscription)
  | findSubscription (id : SubscriptionId)
  | listSubscriptions (user : UserId)
  | findActiveSubscription (user : UserId)
  | createAccount (account : UserAccount)
  | updateAccount (account : UserAccount)
  | findAccount (id : UserId)
  | findAccountByEmail (email : Email)
  | charge (subscription : Subscription) (plan : Plan)
  | refund (receipt : Receipt)
  | hashPassword (plaintext : String)
  | verifyPassword (plaintext hash : String)
  | issueToken (account : UserAccount)
  deriving DecidableEq

/-- What a request is answered with.  Work on passwords may be cut off, and then
has no outcome. -/
@[reducible]
def Request.Answer : Request → Type
  | .clock => Instant
  | .createPlan _ => Except Failure Plan
  | .findPlan _ => Except Failure (Option Plan)
  | .listPlans => Except Failure (List Plan)
  | .createSubscription _ => Except Failure Subscription
  | .updateSubscription _ => Except Failure Unit
  | .findSubscription _ => Except Failure (Option Subscription)
  | .listSubscriptions _ => Except Failure (List Subscription)
  | .findActiveSubscription _ => Except Failure (Option Subscription)
  | .createAccount _ => Except Failure UserAccount
  | .updateAccount _ => Except Failure Unit
  | .findAccount _ => Except Failure (Option UserAccount)
  | .findAccountByEmail _ => Except Failure (Option UserAccount)
  | .charge _ _ => Except Failure Receipt
  | .refund _ => Except Failure Unit
  | .hashPassword _ => Option (Except Failure String)
  | .verifyPassword _ _ => Option Bool
  | .issueToken _ => Except Failure String

end RecurringBilling
