import RecurringBilling.Failure
import RecurringBilling.Identity.Account
import RecurringBilling.Store.Basic

/-!
# The store of accounts

A write is refused when another account has an address of the same mailbox.  For
a new account every stored account counts as another one, for an update those
under other identifiers.  A call gives its outcome and the store after it, also
where it is refused.
-/

namespace RecurringBilling

/-- Accounts under their identifiers. -/
abbrev AccountStore := Store UserAccount

namespace AccountStore

/-- No account has the identifier. -/
def notFound (id : UserId) : Failure :=
  { code := .userNotFound, message := "user not found: " ++ id.numeral }

/-- Another account has the mailbox. -/
def emailInUse : Failure := { code := .emailInUse, message := "email already in use" }

/-- An account under another identifier has the mailbox. -/
def isTaken (s : AccountStore) (email : Email) (except : UserId) : Bool :=
  s.values.any fun x => x.id != except && decide (x.email.SameMailbox email)

/-- Stores a new account under the next identifier. -/
def create (s : AccountStore) (account : UserAccount) :
    Except Failure UserAccount × AccountStore :=
  if isTaken s account.email .unassigned then (.error emailInUse, s)
  else
    let (stored, s) := s.add fun id => account.withId ⟨id⟩
    (.ok stored, s)

/-- Replaces the account that has the same identifier. -/
def update (s : AccountStore) (account : UserAccount) : Except Failure Unit × AccountStore :=
  if !s.contains account.id.value then (.error (notFound account.id), s)
  else if isTaken s account.email account.id then (.error emailInUse, s)
  else (.ok (), s.put account.id.value account)

/-- Looks an account up. -/
def findById (s : AccountStore) (id : UserId) : Option UserAccount := s.find? id.value

/-- The account of a mailbox. -/
def findByEmail (s : AccountStore) (email : Email) : Option UserAccount :=
  s.values.find? fun x => decide (x.email.SameMailbox email)

/-! ## Refused calls -/

variable {s s' : AccountStore} {f : Failure} {account : UserAccount}

theorem eq_of_create_error (h : create s account = (.error f, s')) : s' = s := by
  unfold create at h
  split at h
  · cases h
    rfl
  · cases h

theorem eq_of_update_error (h : update s account = (.error f, s')) : s' = s := by
  unfold update at h
  split at h
  · cases h
    rfl
  · split at h
    · cases h
      rfl
    · cases h

end AccountStore

end RecurringBilling
