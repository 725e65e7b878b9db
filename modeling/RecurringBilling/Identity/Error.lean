import RecurringBilling.Failure
import RecurringBilling.Identifier
import RecurringBilling.Identity.Email
import RecurringBilling.Identity.Password
import RecurringBilling.Identity.PersonName

/-!
# Errors of the identity side

Rules of addresses, names and passwords, and the ways in which registration,
activation and signing in can end without success.  Two codes of a
failure from a store or service have an error of their own; every other failure is
carried along.
-/

namespace RecurringBilling

/-- Why an identity operation did not succeed. -/
inductive IdentityError where
  | email (flaw : Email.Flaw)
  | name (flaw : PersonName.Flaw)
  | password (flaw : Password.Flaw)
  | passwordHashMissing
  | userIdMissing
  | emailInUse
  | userNotFound (id : UserId)
  | wrongCredentials
  | notActivated
  | invalidToken
  | external (failure : Failure)
  | infrastructure (reason : String)
  deriving DecidableEq, Repr

namespace IdentityError

/-- The error in words. -/
def message : IdentityError → String
  | .email flaw => flaw.message
  | .name flaw => flaw.message
  | .password flaw => flaw.message
  | .passwordHashMissing => "password hash is required"
  | .userIdMissing => "user ID is required"
  | .emailInUse => "email already in use"
  | .userNotFound id => "user not found: " ++ id.numeral
  | .wrongCredentials => "invalid credentials"
  | .notActivated => "user is not activated"
  | .invalidToken => "invalid token"
  | .external failure => failure.display
  | .infrastructure reason => "infrastructure error: " ++ reason

/-- The broad kind of the error. -/
def kind : IdentityError → FailureKind
  | .email _ | .name _ | .password _ | .passwordHashMissing | .userIdMissing => .validation
  | .emailInUse => .conflict
  | .userNotFound _ => .notFound
  | .wrongCredentials | .notActivated | .invalidToken => .unauthorized
  | .external failure => failure.kind
  | .infrastructure _ => .infrastructure

/-- The code of the error. -/
def code : IdentityError → FailureCode
  | .emailInUse => .emailInUse
  | .userNotFound _ => .userNotFound
  | .wrongCredentials | .notActivated => .invalidCredentials
  | .invalidToken => .unauthorized
  | .external failure => failure.code
  | .infrastructure _ => .internalError
  | _ => .validationFailed

/-- The error that a failure of a store or service stands for. -/
def ofFailure (f : Failure) : IdentityError :=
  match f.code with
  | .emailInUse => .emailInUse
  | .unauthorized => .invalidToken
  | _ => .external f

/-- The error as a store or service would report it. -/
def toFailure : IdentityError → Failure
  | .external failure => failure
  | e => { code := e.code, message := e.message }

end IdentityError

end RecurringBilling
