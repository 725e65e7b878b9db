import RecurringBilling.Proofs.Identity.SignUp
import RecurringBilling.Proofs.Interleaving.Inquiry

/-!
# What signing in gives away

Whoever signs in with a password that opens no account of the address is told the same about every
store of accounts.  Only with the password of an account does it come out that there is one and
whether it is active; and nobody changes anything by signing in.
-/

namespace RecurringBilling

/-- The address is that of the account, and the password the one that the account accepts. -/
structure Services.Opens (sv : Services) (text password : String) (a : UserAccount) : Prop where
  spells : Email.Spells text a.email
  verified : sv.verify password a.passwordHash = true

instance (sv : Services) (text password : String) (a : UserAccount) :
    Decidable (sv.Opens text password a) :=
  decidable_of_iff
    (Email.Spells text a.email ∧ sv.verify password a.passwordHash = true)
    ⟨fun h => ⟨h.1, h.2⟩, fun h => ⟨h.spells, h.verified⟩⟩

/-- Who is found under the address that a text is read as is an account whose address it spells. -/
theorem AccountStore.spells_of_findByEmail {s : AccountStore} {text : String} {address : Email}
    (hread : Email.ofText text = .ok address) {a : UserAccount}
    (hfound : findByEmail s address = some a) : a ∈ s.values ∧ Email.Spells text a.email := by
  have hsame : a.email.SameMailbox address := by simpa using List.find?_some hfound
  exact ⟨List.mem_of_find?_eq_some hfound, (Email.spells_iff_of_ofText hread a.email).mpr hsame⟩

/-- No failure of a store stands for an account that is not active. -/
theorem IdentityError.ofFailure_ne_notActivated (f : Failure) : ofFailure f ≠ .notActivated := by
  unfold ofFailure
  split <;> nofun

/-! ## How signing in ends -/

namespace SignIn

variable {text password : String} {log : List Exchange} {outcome : Except IdentityError SignedIn}

/-- The look-up has shown the account, and its password has been verified. -/
def Verified (text password : String) (log : List Exchange) (a : UserAccount) : Prop :=
  ∃ address, Email.ofText text = .ok address ∧
    Told log (.findAccountByEmail address) (.ok (some a)) ∧
    Told log (.verifyPassword password a.passwordHash) (some true)

/-- Whether the account is active comes out only once its password has been verified. -/
theorem verified_of_notActivated (h : Ends text password log outcome)
    (houtcome : outcome = .error .notActivated) :
    ∃ a, Verified text password log a ∧ a.activated = false := by
  cases h with
  | lookFailed _ f _ =>
    exact absurd (Except.error.inj houtcome) (IdentityError.ofFailure_ne_notActivated f)
  | inactive hread hinactive i j =>
    exact ⟨_, ⟨_, hread, .head _ _ i _, .cons (.head _ _ j _) _⟩, hinactive⟩
  | _ => cases houtcome

/-- A token is given only for an active account whose password has been verified. -/
theorem verified_of_ok {v : SignedIn} (h : Ends text password log outcome)
    (houtcome : outcome = .ok v) :
    ∃ a, Verified text password log a ∧ a.activated = true ∧ v.user = a.id ∧
      Told log (.issueToken a) (.ok v.token) := by
  cases h with
  | issued hread hactive token i j k =>
    cases houtcome
    exact ⟨_, ⟨_, hread, .head _ _ i _, .cons (.head _ _ j _) _⟩, hactive, rfl,
      .cons (.cons (.head _ _ k _) _) _⟩
  | _ => cases houtcome

/-- Nothing is written by signing in. -/
theorem inquires (text password : String) : (signIn text password).Inquires :=
  (follows text password).inquires fun _ _ h => by cases h <;> rfl

end SignIn

namespace Program

/-- Without an account that the password opens there is one answer to every readable address. -/
theorem run_signIn_of_shut (sv : Services) {w : World} (hfaults : w.faults = [])
    {text password : String} (hshut : ∀ a ∈ w.accounts.values, ¬sv.Opens text password a) :
    ((signIn text password).run sv w).1 =
      match Email.ofText text with
      | .error flaw => .error (.email flaw)
      | .ok _ => .error .wrongCredentials := by
  cases hread : Email.ofText text with
  | error flaw => rw [signIn, hread, run]
  | ok address =>
    cases hfound : AccountStore.findByEmail w.accounts address with
    | none =>
      have hlook : w.serve sv (.findAccountByEmail address) = (.ok none, w) := by
        rw [World.serve, World.found, hfound]
      rw [signIn, hread]
      simp only [run_call_of_serve sv hfaults hlook]
      rfl
    | some a =>
      obtain ⟨hmem, hspells⟩ := AccountStore.spells_of_findByEmail hread hfound
      have hwrong : ¬sv.verify password a.passwordHash = true :=
        fun hverified => hshut a hmem ⟨hspells, hverified⟩
      rw [run_signIn sv hfaults hread hfound, if_neg hwrong]

end Program

/-! ## What a world answers -/

namespace World

variable {sv : Services} {w : World}

/-- No fault shows an account. -/
theorem findByEmail_of_mayAnswer {address : Email} {a : UserAccount} {injected : Bool}
    (h : w.MayAnswer sv ⟨.findAccountByEmail address, .ok (some a), injected⟩) :
    AccountStore.findByEmail w.accounts address = some a := by
  rcases h with hserved | ⟨fault, hfault⟩
  · exact (Except.ok.inj hserved).symm
  · obtain ⟨f, -, herror⟩ := Option.map_eq_some_iff.mp hfault
    cases herror

/-- No fault takes a password for verified. -/
theorem verify_of_mayAnswer {password hash : String} {injected : Bool}
    (h : w.MayAnswer sv ⟨.verifyPassword password hash, some true, injected⟩) :
    sv.verify password hash = true := by
  rcases h with hserved | ⟨fault, hfault⟩
  · exact (Option.some.inj hserved).symm
  · cases fault with
    | verificationDies | hashingDies => cases hfault
    | fails kind failure =>
      obtain ⟨f, -, hmismatch⟩ := Option.map_eq_some_iff.mp hfault
      cases hmismatch

/-- No fault issues a token. -/
theorem issue_of_mayAnswer {a : UserAccount} {token : String} {injected : Bool}
    (h : w.MayAnswer sv ⟨.issueToken a, .ok token, injected⟩) : sv.issue w.now a = .ok token := by
  rcases h with hserved | ⟨fault, hfault⟩
  · exact hserved.symm
  · obtain ⟨f, -, herror⟩ := Option.map_eq_some_iff.mp hfault
    cases herror

end World

/-- Two worlds in which the password opens no account with the address answer alike: with the rule
that the text of the address breaks, or with credentials that are wrong.  That an account is not
active, or a token, is answered only if the password opens the account, and a token only if the
account is active.  Nothing is written in any case. -/
theorem sign_in_tells_nothing_without_password (sv : Services) (text password : String) :
    (∀ w w' : World, w.faults = [] → w'.faults = [] →
      (∀ a ∈ w.accounts.values, ¬sv.Opens text password a) →
      (∀ a ∈ w'.accounts.values, ¬sv.Opens text password a) →
      ((signIn text password).run sv w).1 = ((signIn text password).run sv w').1 ∧
      ((signIn text password).run sv w).1 =
        match Email.ofText text with
        | .error flaw => .error (.email flaw)
        | .ok _ => .error .wrongCredentials) ∧
    ∀ w : World,
      (∃ faults, ((signIn text password).run sv w).2 = { w with faults }) ∧
      (((signIn text password).run sv w).1 = .error .notActivated →
        ∃ a ∈ w.accounts.values, sv.Opens text password a ∧ a.activated = false) ∧
      ∀ v, ((signIn text password).run sv w).1 = .ok v →
        ∃ a ∈ w.accounts.values, sv.Opens text password a ∧ a.activated = true ∧
          v.user = a.id ∧ sv.issue w.now a = .ok v.token := by
  refine ⟨fun w w' hw hw' hshut hshut' => ?_, fun w => ?_⟩
  · have hleft := Program.run_signIn_of_shut sv hw hshut
    exact ⟨hleft.trans (Program.run_signIn_of_shut sv hw' hshut').symm, hleft⟩
  · obtain ⟨log, faults, hruns, hafter, hlog⟩ := (SignIn.inquires text password).exists_run sv w
    have hends := (SignIn.follows text password).ends_of_runs hruns
    have hopens : ∀ {a}, SignIn.Verified text password log a →
        a ∈ w.accounts.values ∧ sv.Opens text password a := by
      rintro a ⟨address, hread, ⟨_, hfound⟩, ⟨_, hverified⟩⟩
      obtain ⟨hmem, hspells⟩ := AccountStore.spells_of_findByEmail hread
        (World.findByEmail_of_mayAnswer (hlog _ hfound).2)
      exact ⟨hmem, hspells, World.verify_of_mayAnswer (hlog _ hverified).2⟩
    refine ⟨⟨faults, hafter⟩, fun hinactive => ?_, fun v hv => ?_⟩
    · obtain ⟨a, hverified, hactivated⟩ := SignIn.verified_of_notActivated hends hinactive
      obtain ⟨hmem, hopened⟩ := hopens hverified
      exact ⟨a, hmem, hopened, hactivated⟩
    · obtain ⟨a, hverified, hactivated, huser, ⟨_, hissued⟩⟩ := SignIn.verified_of_ok hends hv
      obtain ⟨hmem, hopened⟩ := hopens hverified
      exact ⟨a, hmem, hopened, hactivated, huser, World.issue_of_mayAnswer (hlog _ hissued).2⟩

/-- With a wrong password Ada's active account makes no difference, with the right one it does. -/
theorem wrong_password_hides_ada :
    let sv : Services :=
      { hash := fun _ plaintext => .ok ("$" ++ plaintext ++ "$")
        verify := fun plaintext hash => hash == "$" ++ plaintext ++ "$"
        issue := fun _ _ => .ok "token" }
    let nobody : World := { now := .epoch }
    let registered := ((register "Ada" "ada@example.com" "Passw0rd!").run sv nobody).2
    let w := ((activate ⟨1⟩).run sv registered).2
    ((signIn "ADA@example.com" "passw0rd!").run sv w).1 =
        ((signIn "ADA@example.com" "passw0rd!").run sv nobody).1 ∧
      ((signIn "ADA@example.com" "passw0rd!").run sv w).1 = .error .wrongCredentials ∧
      ∃ a ∈ w.accounts.values, sv.Opens "ADA@example.com" "Passw0rd!" a ∧ a.activated = true := by
  intro sv nobody registered w
  have hfaults : w.faults = [] := by decide +kernel
  have hshut : ∀ a ∈ w.accounts.values, ¬sv.Opens "ADA@example.com" "passw0rd!" a := by
    decide +kernel
  have hsigned : ((signIn "ADA@example.com" "Passw0rd!").run sv w).1 =
      .ok { user := ⟨1⟩, token := "token" } := by decide +kernel
  clear_value w
  let address : Email := ⟨"ada@example.com", by decide +kernel⟩
  obtain ⟨_, hread, -⟩ := Email.ofText_of_spells
    (by decide +kernel : Email.Spells "ADA@example.com" address)
  obtain ⟨hsame, hwrong⟩ := (sign_in_tells_nothing_without_password sv "ADA@example.com"
    "passw0rd!").1 w nobody hfaults rfl hshut fun _ hmem => absurd hmem List.not_mem_nil
  obtain ⟨a, hmem, hopens, hactive, -⟩ := ((sign_in_tells_nothing_without_password sv
    "ADA@example.com" "Passw0rd!").2 w).2.2 _ hsigned
  rw [hread] at hwrong
  exact ⟨hsame, hwrong, a, hmem, hopens, hactive⟩

end RecurringBilling
