import RecurringBilling.Program.Request

/-!
# Faults

A fault waits for the next request of one kind and answers it in place of the
world, without any effect.
-/

namespace RecurringBilling

/-- The kinds of request for which a fault can wait. -/
inductive RequestKind where
  | createPlan
  | findPlan
  | listPlans
  | createSubscription
  | updateSubscription
  | findSubscription
  | listSubscriptions
  | findActiveSubscription
  | createAccount
  | updateAccount
  | findAccount
  | findAccountByEmail
  | charge
  | refund
  | hashPassword
  | verifyPassword
  | issueToken
  deriving DecidableEq, Repr

/-- What goes wrong: a request of some kind fails, or the work on a password is cut
off. -/
inductive Fault where
  | fails (kind : RequestKind) (failure : Failure)
  | hashingDies
  | verificationDies
  deriving DecidableEq, Repr

namespace Fault

/-- The failure that waits for a kind of request. -/
def failureOf? (kind : RequestKind) : Fault → Option Failure
  | .fails k failure => if k = kind then some failure else none
  | _ => none

/-- The answer of the fault to a request, if it waits for one of its kind.  A verification
that fails counts as a mismatch. -/
def answer? (fault : Fault) : (r : Request) → Option r.Answer
  | .clock => none
  | .createPlan _ => (fault.failureOf? .createPlan).map .error
  | .findPlan _ => (fault.failureOf? .findPlan).map .error
  | .listPlans => (fault.failureOf? .listPlans).map .error
  | .createSubscription _ => (fault.failureOf? .createSubscription).map .error
  | .updateSubscription _ => (fault.failureOf? .updateSubscription).map .error
  | .findSubscription _ => (fault.failureOf? .findSubscription).map .error
  | .listSubscriptions _ => (fault.failureOf? .listSubscriptions).map .error
  | .findActiveSubscription _ => (fault.failureOf? .findActiveSubscription).map .error
  | .createAccount _ => (fault.failureOf? .createAccount).map .error
  | .updateAccount _ => (fault.failureOf? .updateAccount).map .error
  | .findAccount _ => (fault.failureOf? .findAccount).map .error
  | .findAccountByEmail _ => (fault.failureOf? .findAccountByEmail).map .error
  | .charge _ _ => (fault.failureOf? .charge).map .error
  | .refund _ => (fault.failureOf? .refund).map .error
  | .hashPassword _ =>
    match fault with
    | .hashingDies => some none
    | _ => (fault.failureOf? .hashPassword).map fun f => some (.error f)
  | .verifyPassword _ _ =>
    match fault with
    | .verificationDies => some none
    | _ => (fault.failureOf? .verifyPassword).map fun _ => some false
  | .issueToken _ => (fault.failureOf? .issueToken).map .error

end Fault

end RecurringBilling
