import RecurringBilling.Failure
import RecurringBilling.Json.Field

/-!
# Failures in JSON
-/

namespace RecurringBilling

/-- The word for a kind of failure. -/
def FailureKind.label : FailureKind → String
  | .validation => "Validation"
  | .notFound => "NotFound"
  | .conflict => "Conflict"
  | .state => "State"
  | .unauthorized => "Unauthorized"
  | .infrastructure => "Infrastructure"

namespace FailureCode

/-- Every code. -/
def all : List FailureCode :=
  [.validationFailed, .planNotFound, .subscriptionNotFound, .userNotFound,
    .activeSubscriptionExists, .emailInUse, .invalidState, .invalidCredentials, .unauthorized,
    .paymentFailed, .databaseError, .internalError]

/-- The code of a label. -/
def ofLabel? (label : String) : Option FailureCode := all.find? fun c => c.label == label

end FailureCode

/-- The failure in JSON. -/
def Failure.toJson (f : Failure) : Json :=
  .object
    [("error", .text f.code.label), ("message", .text f.message), ("kind", .text f.kind.label),
      ("display", .text f.display),
      ("details", .object (f.details.map fun (name, value) => (name, .text value)))]

end RecurringBilling
