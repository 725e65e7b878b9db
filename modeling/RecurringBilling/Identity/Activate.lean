import RecurringBilling.Program.Basic

/-!
# Activating

An account that is active already is left as it is.
-/

namespace RecurringBilling

/-- An active account, and whether it was activated just now. -/
structure Activated where
  account : UserAccount
  changed : Bool
  deriving DecidableEq

namespace Activate

/-- Stores the account as active. -/
def store (before : UserAccount) : Program (Except IdentityError Activated) :=
  .call .clock fun now =>
    let after := before.activate now
    .call (.updateAccount after) fun
      | .error f => .done (.error (.ofFailure f))
      | .ok () => .done (.ok { account := after, changed := true })

end Activate

/-- Activates the account of a user. -/
def activate (user : UserId) : Program (Except IdentityError Activated) :=
  if !user.isAssigned then .done (.error .userIdMissing)
  else
    .call (.findAccount user) fun
      | .error f => .done (.error (.ofFailure f))
      | .ok none => .done (.error (.userNotFound user))
      | .ok (some account) =>
        if account.activated then .done (.ok { account, changed := false })
        else Activate.store account

end RecurringBilling
