import RecurringBilling.Calendar.Instant
import RecurringBilling.Identity.Error

/-!
# User accounts

An account has a name, an address and the hash of a password.  It starts out
inactive; activating it is the only change it knows.
-/

namespace RecurringBilling

open RecurringBilling.Calendar RecurringBilling.Text

/-- A registered user. -/
structure UserAccount where
  id : UserId
  name : PersonName
  email : Email
  passwordHash : String
  activated : Bool
  createdAt : Instant
  updatedAt : Instant
  deriving DecidableEq

namespace UserAccount

/-- A new account that has not been stored.  Hash, name and address are checked
in this order; blanks around the hash are left out. -/
def create (name email passwordHash : String) (now : Instant) :
    Except IdentityError UserAccount :=
  let hash := trim passwordHash.toList
  if hash.isEmpty then .error .passwordHashMissing
  else
    match PersonName.ofText name with
    | .error flaw => .error (.name flaw)
    | .ok name =>
      match Email.ofText email with
      | .error flaw => .error (.email flaw)
      | .ok email =>
        .ok
          { id := .unassigned
            name
            email
            passwordHash := String.ofList hash
            activated := false
            createdAt := now
            updatedAt := now }

/-- An account as it was stored, checked once more. -/
def restore (id : UserId) (name email passwordHash : String) (activated : Bool)
    (createdAt updatedAt : Instant) : Except IdentityError UserAccount :=
  if id.isAssigned then
    match create name email passwordHash createdAt with
    | .error e => .error e
    | .ok account => .ok { account with id, activated, createdAt, updatedAt }
  else .error .userIdMissing

/-- The account under the identifier that a store has assigned. -/
def withId (a : UserAccount) (id : UserId) : UserAccount := { a with id }

/-- The account from the instant of its activation on. -/
def activate (a : UserAccount) (now : Instant) : UserAccount :=
  { a with activated := true, updatedAt := now }

end UserAccount

end RecurringBilling
