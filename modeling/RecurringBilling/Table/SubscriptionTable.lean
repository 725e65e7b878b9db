import RecurringBilling.Table.Statement
import RecurringBilling.Table.SubscriptionRow

/-!
# The subscription table

Subscriptions kept in a database table, in the same manner as plans.  A write
that would give a user a second active subscription is reported as such.
-/

namespace RecurringBilling

/-- The answers of a subscription table to the statements run on it. -/
structure SubscriptionTable where
  insert : SubscriptionRow → Except QueryError BigColumn
  overwrite : SubscriptionRow → Except QueryError Nat
  erase : BigColumn → Except QueryError Nat
  select : BigColumn → Except QueryError (Option SubscriptionRow)
  selectOf : (user : BigColumn) → Except QueryError (List SubscriptionRow)
  selectActiveOf : (user : BigColumn) → Except QueryError (Option SubscriptionRow)

namespace SubscriptionTable

/-- No subscription has the identifier. -/
def notFound (id : SubscriptionId) : Failure :=
  { code := .subscriptionNotFound, message := "subscription not found: " ++ id.numeral }

/-- The failure of a write for a user. -/
def writeFailure (attempt : String) (user : UserId) : QueryError → Failure
  | .secondActive _ =>
    { code := .activeSubscriptionExists
      message := "user already has an active subscription: " ++ user.numeral }
  | .failed reason => QueryError.toFailure attempt (.failed reason)

/-- Stores a new subscription and returns it with its identifier. -/
def create (t : SubscriptionTable) (s : Subscription) : Except Failure Subscription :=
  (Statement.insert t.insert (writeFailure "create subscription" s.user)
    (SubscriptionRow.ofSubscription s)).map fun id => s.withId ⟨id⟩

/-- Replaces a stored subscription. -/
def update (t : SubscriptionTable) (s : Subscription) : Except Failure Unit :=
  Statement.overwrite t.overwrite (writeFailure "update subscription" s.user) (notFound s.id)
    (SubscriptionRow.ofSubscription s)

/-- Removes a stored subscription. -/
def delete (t : SubscriptionTable) (id : SubscriptionId) : Except Failure Unit :=
  Statement.remove t.erase "delete subscription" (notFound id) id.value

/-- Looks a subscription up. -/
def findById (t : SubscriptionTable) (id : SubscriptionId) : Except Failure (Option Subscription) :=
  Statement.lookUp "id" t.select SubscriptionRow.toSubscription "find subscription" id.value

/-- Every subscription of a user, in the order of the identifiers. -/
def findByUser (t : SubscriptionTable) (user : UserId) : Except Failure (List Subscription) :=
  match BigColumn.ofNat "user_id" user.value with
  | .error f => .error f
  | .ok column =>
    Statement.list (t.selectOf column) SubscriptionRow.toSubscription "find subscriptions"

/-- The active subscription of a user. -/
def findActiveByUser (t : SubscriptionTable) (user : UserId) :
    Except Failure (Option Subscription) :=
  Statement.lookUp "user_id" t.selectActiveOf SubscriptionRow.toSubscription
    "find active subscription" user.value

/-- The table behind a pool that has been closed. -/
def closed : SubscriptionTable where
  insert _ := .error .closedPool
  overwrite _ := .error .closedPool
  erase _ := .error .closedPool
  select _ := .error .closedPool
  selectOf _ := .error .closedPool
  selectActiveOf _ := .error .closedPool

end SubscriptionTable

end RecurringBilling
