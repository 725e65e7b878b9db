import RecurringBilling.Failure

/-!
# Outcomes of queries

What a database answers when it does not answer a query: it may report that a
write would give a user a second active subscription, or anything else in its
own words.
-/

namespace RecurringBilling

/-- Why a query has no answer. -/
inductive QueryError where
  | secondActive (reason : String)
  | failed (reason : String)
  deriving DecidableEq, Repr

namespace QueryError

/-- The database's own words. -/
def reason : QueryError → String
  | .secondActive reason => reason
  | .failed reason => reason

/-- The failure of an attempt, with the database's own words at the end. -/
def toFailure (attempt : String) (e : QueryError) : Failure :=
  .database ("Failed to " ++ attempt ++ ": " ++ e.reason)

/-- No connection can be had any more. -/
def closedPool : QueryError := .failed "attempted to acquire a connection on a closed pool"

end QueryError

end RecurringBilling
