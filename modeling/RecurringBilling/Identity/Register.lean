import RecurringBilling.Program.Basic

/-!
# Registering

A name, an address and a password are checked in this order before anything is
asked.  The password is hashed only once the address was found free; the store
has the last word on whether it still is.
-/

namespace RecurringBilling

namespace Register

/-- Stores the account. -/
def store (name email hash : String) : Program (Except IdentityError UserAccount) :=
  .call .clock fun now =>
    match UserAccount.create name email hash now with
    | .error e => .done (.error e)
    | .ok account =>
      .call (.createAccount account) fun
        | .error f => .done (.error (.ofFailure f))
        | .ok stored => .done (.ok stored)

/-- Hashes the password. -/
def hash (name : String) (email : Email) (password : Password) :
    Program (Except IdentityError UserAccount) :=
  .call (.hashPassword password.plaintext) fun
    | none => .done (.error (.infrastructure "password hashing task failed"))
    | some (.error f) => .done (.error (.infrastructure f.message))
    | some (.ok hash) => store name email.text hash

/-- Makes sure that the address is free. -/
def checkFree (name : String) (email : Email) (password : Password) :
    Program (Except IdentityError UserAccount) :=
  .call (.findAccountByEmail email) fun
    | .error f => .done (.error (.ofFailure f))
    | .ok (some _) => .done (.error .emailInUse)
    | .ok none => hash name email password

end Register

/-- Registers a user. -/
def register (name email password : String) : Program (Except IdentityError UserAccount) :=
  match PersonName.ofText name with
  | .error flaw => .done (.error (.name flaw))
  | .ok _ =>
    match Email.ofText email with
    | .error flaw => .done (.error (.email flaw))
    | .ok email =>
      match Password.ofText password with
      | .error flaw => .done (.error (.password flaw))
      | .ok password => Register.checkFree name email password

end RecurringBilling
