import RecurringBilling.Failure
import RecurringBilling.Identifier
import RecurringBilling.Plan.Currency
import RecurringBilling.Plan.Description
import RecurringBilling.Plan.Name
import RecurringBilling.Plan.TrialPeriod

/-!
# Errors of the billing side

Each rule of plans and subscriptions has an error of its own, and so has each
way in which a use case can end without success.  A failure of a store
or of the ledger is carried along unchanged.  `kind` and `code` classify errors independently of each
other.
-/

namespace RecurringBilling

/-- Why a billing operation did not succeed. -/
inductive BillingError where
  | planName (flaw : PlanName.Flaw)
  | description (flaw : Description.Flaw)
  | amountTooLarge
  | currency (flaw : Currency.Flaw)
  | trialPeriod (flaw : TrialPeriod.Flaw)
  | unknownInterval (code : String)
  | unknownStatus (code : String)
  | planIdMissing
  | subscriptionIdMissing
  | userIdMissing
  | startDateMissing
  | endBeforeStart
  | planNotFound (id : PlanId)
  | subscriptionNotFound (id : SubscriptionId)
  | alreadySubscribed (user : UserId)
  | wrongState (current attempted : String)
  | autoRenewOff (id : SubscriptionId)
  | paymentFailed (reason : String)
  | external (failure : Failure)
  | infrastructure (reason : String)
  deriving DecidableEq, Repr

namespace BillingError

/-- The error in words. -/
def message : BillingError → String
  | .planName flaw => flaw.message
  | .description flaw => flaw.message
  | .amountTooLarge => "amount exceeds maximum allowed value"
  | .currency flaw => flaw.message
  | .trialPeriod flaw => flaw.message
  | .unknownInterval code => "invalid plan interval: " ++ code
  | .unknownStatus code => "invalid subscription status: " ++ code
  | .planIdMissing => "plan ID is required"
  | .subscriptionIdMissing => "subscription ID is required"
  | .userIdMissing => "user ID is required"
  | .startDateMissing => "start date is required"
  | .endBeforeStart => "end date cannot be before start date"
  | .planNotFound id => "plan not found: " ++ id.numeral
  | .subscriptionNotFound id => "subscription not found: " ++ id.numeral
  | .alreadySubscribed user => "user already has an active subscription: " ++ user.numeral
  | .wrongState current attempted =>
    "cannot " ++ attempted ++ " subscription in " ++ current ++ " state"
  | .autoRenewOff id => "subscription " ++ id.numeral ++ " is not set to auto-renew"
  | .paymentFailed reason => "payment failed: " ++ reason
  | .external failure => failure.display
  | .infrastructure reason => "infrastructure error: " ++ reason

/-- The broad kind of the error. -/
def kind : BillingError → FailureKind
  | .planNotFound _ | .subscriptionNotFound _ => .notFound
  | .alreadySubscribed _ => .conflict
  | .endBeforeStart | .wrongState _ _ | .autoRenewOff _ => .state
  | .paymentFailed _ | .infrastructure _ => .infrastructure
  | .external failure => failure.kind
  | _ => .validation

/-- The code of the error. -/
def code : BillingError → FailureCode
  | .planNotFound _ => .planNotFound
  | .subscriptionNotFound _ => .subscriptionNotFound
  | .alreadySubscribed _ => .activeSubscriptionExists
  | .endBeforeStart | .wrongState _ _ | .autoRenewOff _ => .invalidState
  | .paymentFailed _ => .paymentFailed
  | .infrastructure _ => .internalError
  | .external failure => failure.code
  | _ => .validationFailed

/-- The caller gave a value that breaks a rule. -/
def isValidation (e : BillingError) : Bool := e.kind == .validation

/-- The same call may succeed later. -/
def isRetryable : BillingError → Bool
  | .paymentFailed _ | .infrastructure _ => true
  | .external failure => failure.code == .databaseError
  | _ => false

/-- The error that carries a failure. -/
def ofFailure (f : Failure) : BillingError := .external f

/-- The error after a refused charge. -/
def ofCharge (f : Failure) : BillingError :=
  if f.code = .paymentFailed then .paymentFailed f.message else .external f

/-- The error after a subscription of the user could not be stored. -/
def ofCreation (user : UserId) (f : Failure) : BillingError :=
  if f.code = .activeSubscriptionExists then .alreadySubscribed user else .external f

/-- The error after a subscription of the user could not be replaced. -/
def ofUpdate (id : SubscriptionId) (user : UserId) (f : Failure) : BillingError :=
  if f.code = .subscriptionNotFound then .subscriptionNotFound id else ofCreation user f

/-- The error as a store would report it. -/
def toFailure : BillingError → Failure
  | .external failure => failure
  | e => { code := e.code, message := e.message }

end BillingError

end RecurringBilling
