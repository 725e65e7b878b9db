import RecurringBilling.Program.Basic

/-!
# Signing in

An address and a password are exchanged for an access token.  An unknown address
and a wrong password are answered alike; whether the account is active matters
only after the password has been verified.
-/

namespace RecurringBilling

/-- A user and the access token issued to them. -/
structure SignedIn where
  user : UserId
  token : String
  deriving DecidableEq

namespace SignIn

/-- Issues the token. -/
def issue (account : UserAccount) : Program (Except IdentityError SignedIn) :=
  .call (.issueToken account) fun
    | .error f => .done (.error (.infrastructure f.message))
    | .ok token => .done (.ok { user := account.id, token })

/-- Verifies the password of an account. -/
def verify (account : UserAccount) (password : String) :
    Program (Except IdentityError SignedIn) :=
  .call (.verifyPassword password account.passwordHash) fun
    | none => .done (.error (.infrastructure "password verification task failed"))
    | some false => .done (.error .wrongCredentials)
    | some true =>
      if account.activated then issue account else .done (.error .notActivated)

end SignIn

/-- Signs a user in. -/
def signIn (email password : String) : Program (Except IdentityError SignedIn) :=
  match Email.ofText email with
  | .error flaw => .done (.error (.email flaw))
  | .ok email =>
    .call (.findAccountByEmail email) fun
      | .error f => .done (.error (.ofFailure f))
      | .ok none => .done (.error .wrongCredentials)
      | .ok (some account) => SignIn.verify account password

end RecurringBilling
