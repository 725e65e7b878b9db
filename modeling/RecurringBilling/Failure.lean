/-!
# Failures

Stores, the payment ledger and the token service report failures in one form: a
code, a message and named details.  The code alone decides the broad kind of
the failure.
-/

namespace RecurringBilling

/-- The broad kind of a failure. -/
inductive FailureKind where
  | validation
  | notFound
  | conflict
  | state
  | unauthorized
  | infrastructure
  deriving DecidableEq, Repr

/-- What went wrong. -/
inductive FailureCode where
  | validationFailed
  | planNotFound
  | subscriptionNotFound
  | userNotFound
  | activeSubscriptionExists
  | emailInUse
  | invalidState
  | invalidCredentials
  | unauthorized
  | paymentFailed
  | databaseError
  | internalError
  deriving DecidableEq, Repr

namespace FailureCode

/-- The code as it is written in messages. -/
def label : FailureCode → String
  | .validationFailed => "VALIDATION_FAILED"
  | .planNotFound => "PLAN_NOT_FOUND"
  | .subscriptionNotFound => "SUBSCRIPTION_NOT_FOUND"
  | .userNotFound => "USER_NOT_FOUND"
  | .activeSubscriptionExists => "ACTIVE_SUBSCRIPTION_EXISTS"
  | .emailInUse => "EMAIL_IN_USE"
  | .invalidState => "INVALID_STATE"
  | .invalidCredentials => "INVALID_CREDENTIALS"
  | .unauthorized => "UNAUTHORIZED"
  | .paymentFailed => "PAYMENT_FAILED"
  | .databaseError => "DATABASE_ERROR"
  | .internalError => "INTERNAL_ERROR"

/-- The kind a code belongs to. -/
def kind : FailureCode → FailureKind
  | .validationFailed => .validation
  | .planNotFound | .subscriptionNotFound | .userNotFound => .notFound
  | .activeSubscriptionExists | .emailInUse => .conflict
  | .invalidState => .state
  | .invalidCredentials | .unauthorized => .unauthorized
  | .paymentFailed | .databaseError | .internalError => .infrastructure

end FailureCode

/-- A failure of a store or service.  Each detail name occurs once. -/
structure Failure where
  code : FailureCode
  message : String
  details : List (String × String) := []
  deriving DecidableEq, Repr

namespace Failure

/-- The kind of the failure. -/
def kind (f : Failure) : FailureKind := f.code.kind

/-- The failure on one line. -/
def display (f : Failure) : String := "[" ++ f.code.label ++ "] " ++ f.message

/-- Puts a detail under a name, in place of an earlier one. -/
def putDetail (name value : String) : List (String × String) → List (String × String)
  | [] => [(name, value)]
  | (n, v) :: rest => if n = name then (name, value) :: rest else (n, v) :: putDetail name value rest

/-- The failure with one more detail. -/
def withDetail (f : Failure) (name value : String) : Failure :=
  { f with details := putDetail name value f.details }

/-- The detail under a name. -/
def detail? (f : Failure) (name : String) : Option String := f.details.lookup name

/-- A value of the named field breaks a rule. -/
def invalidField (field message : String) : Failure :=
  (Failure.mk .validationFailed message []).withDetail "field" field

/-- The database could not answer. -/
def database (message : String) : Failure := { code := .databaseError, message }

theorem lookup_putDetail (name value : String) (ds : List (String × String)) :
    (putDetail name value ds).lookup name = some value := by
  induction ds with
  | nil => simp [putDetail]
  | cons d rest ih =>
    obtain ⟨n, v⟩ := d
    by_cases h : n = name
    · simp [putDetail, h]
    · have hne : (name == n) = false := by simpa using fun h' => h h'.symm
      rw [putDetail, if_neg h, List.lookup_cons, hne]
      exact ih

theorem detail?_withDetail (f : Failure) (name value : String) :
    (f.withDetail name value).detail? name = some value :=
  lookup_putDetail name value f.details

end Failure

end RecurringBilling
