import RecurringBilling.Proofs.Identity.Accounts
import RecurringBilling.Proofs.Identity.Passwords
import RecurringBilling.Proofs.Identity.Spelling
import RecurringBilling.Proofs.Token.Lifetime

/-!
# From signing up to a token

Whoever registers with a free address and activates the account can sign in with the password,
however the address is spelt and whatever happens in between, and is given a token that
stands for the same user.
-/

namespace RecurringBilling

open RecurringBilling.Calendar RecurringBilling.Text

/-! ## What is stored of a person -/

namespace UserAccount

/-- The account of a person who registers, before it is stored. -/
def newcomer (name : PersonName) (email : Email) (hash : String) (now : Instant) : UserAccount where
  id := .unassigned
  name := name
  email := email
  passwordHash := hash
  activated := false
  createdAt := now
  updatedAt := now

/-- Name and address pass the checks once more, so only the hash can still be refused. -/
theorem create_text {name : String} {fullName : PersonName}
    (hname : PersonName.ofText name = .ok fullName) (address : Email) (hash : String)
    (now : Instant) :
    create name address.text hash now =
      if trim hash.toList = [] then .error .passwordHashMissing
      else .ok (newcomer fullName address (trimmed hash) now) := by
  rw [create, hname, Email.ofText_text]
  by_cases hblank : trim hash.toList = []
  · rw [if_pos hblank, hblank]
    rfl
  · rw [if_neg hblank]
    dsimp only
    rw [if_neg (by simpa using hblank)]
    rfl

/-- A hash without blanks around it is kept as it is. -/
theorem create_eq {name : String} {fullName : PersonName}
    (hname : PersonName.ofText name = .ok fullName) (address : Email) {hash : String}
    (hsome : hash ≠ "") (htrim : trim hash.toList = hash.toList) (now : Instant) :
    create name address.text hash now = .ok (newcomer fullName address hash now) := by
  have hfull : ¬trim hash.toList = [] := by
    rw [htrim]
    exact fun hnil => hsome (String.toList_injective hnil)
  rw [create_text hname, if_neg hfull, trimmed_of_trim_eq htrim]

end UserAccount

/-! ## Use cases alone -/

namespace Program

variable (sv : Services) {w : World}

/-! ### Registering -/

section Register

variable {name email hash password : String} {fullName : PersonName} {address : Email}

theorem run_register_store (hfaults : w.faults = []) (h : AccountStore.Sound w.accounts)
    (hname : PersonName.ofText name = .ok fullName)
    (hfree : AccountStore.findByEmail w.accounts address = none) (hsome : hash ≠ "")
    (htrim : trim hash.toList = hash.toList) :
    (Register.store name address.text hash).run sv w =
      let account := UserAccount.newcomer fullName address hash w.now
      (.ok (account.withId ⟨w.accounts.lastId + 1⟩),
        { w with accounts := (w.accounts.add fun id => account.withId ⟨id⟩).2 }) := by
  have hclock : w.serve sv .clock = (w.now, w) := rfl
  have hserve := World.serve_createAccount_of_free sv h
    (a := UserAccount.newcomer fullName address hash w.now) hfree
  rw [Register.store, run_call_of_serve sv hfaults hclock,
    UserAccount.create_eq hname address hsome htrim]
  exact run_call_of_serve sv hfaults hserve _

/-- Whoever registers with a free address is stored under the next identifier. -/
theorem run_register (hfaults : w.faults = []) (h : AccountStore.Sound w.accounts)
    (hname : PersonName.ofText name = .ok fullName) (hemail : Email.ofText email = .ok address)
    {secret : Password} (hpassword : Password.ofText password = .ok secret)
    (hfree : AccountStore.findByEmail w.accounts address = none)
    (hhash : sv.hash w.salt password = .ok hash) (hsome : hash ≠ "")
    (htrim : trim hash.toList = hash.toList) :
    (register name email password).run sv w =
      let account := UserAccount.newcomer fullName address hash w.now
      (.ok (account.withId ⟨w.accounts.lastId + 1⟩),
        { w with accounts := (w.accounts.add fun id => account.withId ⟨id⟩).2 }) := by
  have hlook : w.serve sv (.findAccountByEmail address) = (.ok none, w) := by
    rw [World.serve, World.found, hfree]
  have hhashed : w.serve sv (.hashPassword secret.plaintext) = (some (.ok hash), w) := by
    rw [World.serve, Password.plaintext_of_ofText hpassword, hhash]
  rw [register, hname, hemail, hpassword]
  simp only
  rw [Register.checkFree, run_call_of_serve sv hfaults hlook, Register.hash,
    run_call_of_serve sv hfaults hhashed]
  exact run_register_store sv hfaults h hname hfree hsome htrim

end Register

/-! ### Activating -/

section Activate

variable {id : UserId} {account : UserAccount}

theorem run_activate_store (hfaults : w.faults = []) (h : AccountStore.Sound w.accounts)
    (ha : AccountStore.findById w.accounts id = some account) :
    (Activate.store account).run sv w =
      (.ok { account := account.activate w.now, changed := true },
        { w with accounts := w.accounts.put id.value (account.activate w.now) }) := by
  have hid : (account.activate w.now).id = id := h.named id.value account ha
  have hupdate : AccountStore.update w.accounts (account.activate w.now) =
      (.ok (), w.accounts.put id.value (account.activate w.now)) := by
    have hfound : AccountStore.findById w.accounts (account.activate w.now).id = some account := by
      rw [hid, ha]
    rw [h.update_of_own hfound (Email.SameMailbox.refl account.email), hid]
  have hserve : w.serve sv (.updateAccount (account.activate w.now)) =
      (.ok (), { w with accounts := w.accounts.put id.value (account.activate w.now) }) := by
    rw [World.serve, hupdate]
    rfl
  have hclock : w.serve sv .clock = (w.now, w) := rfl
  rw [Activate.store, run_call_of_serve sv hfaults hclock]
  exact run_call_of_serve sv hfaults hserve _

/-- An account that is not active yet is replaced by one that is. -/
theorem run_activate (hfaults : w.faults = []) (hassigned : id.isAssigned = true)
    (ha : AccountStore.findById w.accounts id = some account) :
    (activate id).run sv w =
      if account.activated then (.ok { account, changed := false }, w)
      else (Activate.store account).run sv w := by
  have hload : w.serve sv (.findAccount id) = (.ok (some account), w) := by
    rw [World.serve, World.found, ha]
  rw [activate, hassigned]
  simp only [Bool.not_true, Bool.false_eq_true, if_false, run_call_of_serve sv hfaults hload]
  cases account.activated <;> rfl

end Activate

/-! ### Signing in -/

theorem run_issue (hfaults : w.faults = []) (account : UserAccount) :
    (SignIn.issue account).run sv w =
      (match sv.issue w.now account with
        | .error f => .error (.infrastructure f.message)
        | .ok token => .ok { user := account.id, token }, w) := by
  have hserve : w.serve sv (.issueToken account) = (sv.issue w.now account, w) := rfl
  rw [SignIn.issue, run_call_of_serve sv hfaults hserve]
  cases sv.issue w.now account <;> rfl

/-- Only the password of an account decides whether its activation is looked at. -/
theorem run_signIn (hfaults : w.faults = []) {text : String} {address : Email}
    (hread : Email.ofText text = .ok address) {account : UserAccount}
    (hfound : AccountStore.findByEmail w.accounts address = some account) (password : String) :
    (signIn text password).run sv w =
      if sv.verify password account.passwordHash then
        if account.activated then (SignIn.issue account).run sv w
        else (.error .notActivated, w)
      else (.error .wrongCredentials, w) := by
  have hlook : w.serve sv (.findAccountByEmail address) = (.ok (some account), w) := by
    rw [World.serve, World.found, hfound]
  have hverify : w.serve sv (.verifyPassword password account.passwordHash) =
      (some (sv.verify password account.passwordHash), w) := rfl
  rw [signIn, hread]
  simp only [run_call_of_serve sv hfaults hlook]
  rw [SignIn.verify, run_call_of_serve sv hfaults hverify]
  cases sv.verify password account.passwordHash with
  | false => rfl
  | true => cases account.activated <;> rfl

end Program

namespace World

variable (sv : Services) {w : World} {id : UserId} {account : UserAccount} {text : String}

/-- How signing in to a stored account ends, however its address is spelt. -/
theorem carryOut_signIn (h : AccountStore.Sound w.accounts)
    (ha : AccountStore.findById w.accounts id = some account)
    (hspells : Email.Spells text account.email) (now : Instant) (password : String) :
    (w.carryOut sv now (.signIn text password)).1 =
      if sv.verify password account.passwordHash then
        if account.activated then
          match sv.issue now account with
          | .error f => .error (.infrastructure f.message)
          | .ok token => .ok { user := account.id, token }
        else .error .notActivated
      else .error .wrongCredentials := by
  obtain ⟨address, hread, hsame⟩ := Email.ofText_of_spells hspells
  have hfound : AccountStore.findByEmail (w.facing (.alone now)).accounts address = some account :=
    h.findByEmail_eq_some_iff.mpr ⟨⟨id.value, ha⟩, hsame.symm⟩
  have hrun := Program.run_signIn sv (facing_faults w now _) hread hfound password
  rw [Program.run_issue sv (facing_faults w now _)] at hrun
  rw [carryOut, UseCase.program, hrun]
  split
  · split <;> rfl
  · rfl

/-- An account that is there is active once its activation has been carried out. -/
theorem carryOut_activate (h : AccountStore.Sound w.accounts) (hassigned : id.isAssigned = true)
    (ha : AccountStore.findById w.accounts id = some account) (now : Instant) :
    ∃ b changed, (w.carryOut sv now (.activate id)).1 = .ok { account := b, changed } ∧
      AccountStore.findById (w.carryOut sv now (.activate id)).2.accounts id = some b ∧
      account.Ages b ∧ b.activated = true := by
  have ha' : AccountStore.findById (w.facing (.alone now)).accounts id = some account := ha
  have hrun := Program.run_activate sv (facing_faults w now _) hassigned ha'
  rw [Program.run_activate_store sv (facing_faults w now _) h ha'] at hrun
  cases hactivated : account.activated with
  | true =>
    rw [hactivated, if_pos rfl] at hrun
    refine ⟨account, false, ?_, ?_, .refl account, hactivated⟩
    · rw [carryOut, UseCase.program, hrun]
    · rw [carryOut, UseCase.program, hrun]
      exact ha'
  | false =>
    rw [hactivated, if_neg Bool.false_ne_true] at hrun
    refine ⟨account.activate now, true, ?_, ?_, Or.inr ⟨now, rfl⟩, rfl⟩
    · rw [carryOut, UseCase.program, hrun]
      rfl
    · rw [carryOut, UseCase.program, hrun, AccountStore.findById, Store.find?_put, if_pos rfl]
      rfl

/-- Whoever registers with a free address has an account that is not active yet. -/
theorem carryOut_register (h : AccountStore.Sound w.accounts) {name email password hash : String}
    {fullName : PersonName} (hname : PersonName.ofText name = .ok fullName) {address : Email}
    (hemail : Email.ofText email = .ok address) {secret : Password}
    (hpassword : Password.ofText password = .ok secret)
    (hfree : AccountStore.findByEmail w.accounts address = none)
    {salt : List UInt8} (hhash : sv.hash salt password = .ok hash) (hsome : hash ≠ "")
    (htrim : trim hash.toList = hash.toList) (now : Instant) :
    ∃ account, (w.carryOut sv now (.register name email password) salt).1 = .ok account ∧
      AccountStore.findById (w.carryOut sv now (.register name email password) salt).2.accounts
        account.id = some account ∧
      account.id = ⟨w.accounts.lastId + 1⟩ ∧ account.email = address ∧
      account.passwordHash = hash ∧ account.activated = false := by
  have hrun := Program.run_register sv (facing_faults w now _) h hname hemail hpassword hfree
    hhash hsome htrim
  let account := UserAccount.newcomer fullName address hash now
  refine ⟨account.withId ⟨w.accounts.lastId + 1⟩, ?_, ?_, rfl, rfl, rfl, rfl⟩
  · rw [carryOut, UseCase.program, hrun]
    rfl
  · rw [carryOut, UseCase.program, hrun]
    show (w.accounts.add fun id => account.withId ⟨id⟩).2.find? (w.accounts.lastId + 1) = _
    rw [Store.find?_add, if_pos rfl]

end World

/-- A stored account is issued a token that is resolved to its user while the token is valid. -/
theorem TokenService.exists_issue (tokens : TokenService) (account : UserAccount)
    (hlt : account.id.value < identifierBound) (hne : account.id.value ≠ 0) (issued : Instant) :
    ∃ token, tokens.issue issued account = .ok token ∧
      (0 ≤ (tokens.claimsFor account.id issued).expiry → ∀ later : Instant,
        later.seconds - 60 ≤ (tokens.claimsFor account.id issued).expiry →
          tokens.resolve later token = .ok account.id) := by
  refine ⟨tokens.tokenOf (tokens.claimsFor account.id issued), ?_, ?_⟩
  · simp [issue, issueTo, UserId.isAssigned, hne]
  · intro hexpiry later hvalid
    rw [tokens.resolve_tokenOf_of_expiry rfl rfl hlt hne hexpiry]
    exact if_pos hvalid

/-- Whoever has registered with a free address cannot sign in until the account is activated, and
can sign in from then on, under any spelling of the address, whatever salt the password was hashed
with and whatever else is going on.  The token that is issued then stands for the same user as long
as it is valid.  A password that the account does not accept never leads anywhere. -/
theorem sign_up_leads_to_token (tokens : TokenService) (sv : Services)
    (hissue : sv.issue = tokens.issue) (w₀ : World) (hnobody : w₀.accounts = {})
    (earlier : Session) {name email password hash : String} {fullName : PersonName}
    {address : Email} {secret : Password} (hname : PersonName.ofText name = .ok fullName)
    (hemail : Email.ofText email = .ok address)
    (hpassword : Password.ofText password = .ok secret)
    (hfree : AccountStore.findByEmail (w₀.afterSession sv earlier).accounts address = none)
    (hroom : (w₀.afterSession sv earlier).accounts.lastId + 1 < identifierBound)
    {salt : List UInt8} (hhash : sv.hash salt password = .ok hash)
    (hverify : sv.verify password hash = true)
    (hsome : hash ≠ "") (htrim : trim hash.toList = hash.toList) (now : Instant) :
    let w := w₀.afterSession sv earlier
    let w₁ := (w.carryOut sv now (.register name email password) salt).2
    ∃ account, (w.carryOut sv now (.register name email password) salt).1 = .ok account ∧
      ∀ (x : Session) (t : Instant) (text : String), Email.Spells text address →
        let w₂ := w₁.afterSession sv x
        -- before the activation
        (.activate account.id ∉ x.useCases →
          (w₂.carryOut sv t (.signIn text password)).1 = .error .notActivated) ∧
        (∀ other, sv.verify other hash = false →
          (w₂.carryOut sv t (.signIn text other)).1 = .error .wrongCredentials) ∧
        -- the activation, and what comes after it
        (∃ activated, (w₂.carryOut sv t (.activate account.id)).1 = .ok activated) ∧
        ∀ (y : Session) (issued : Instant),
          let w₃ := (w₂.carryOut sv t (.activate account.id)).2.afterSession sv y
          (∀ other, sv.verify other hash = false →
            (w₃.carryOut sv issued (.signIn text other)).1 = .error .wrongCredentials) ∧
          ∃ token,
            (w₃.carryOut sv issued (.signIn text password)).1 =
              .ok { user := account.id, token } ∧
            let expiry := min (issued.seconds + min (tokens.lifetime : Int) Json.maxSigned)
              Json.maxSigned
            (0 ≤ expiry → ∀ later : Instant, later.seconds - 60 ≤ expiry →
              tokens.resolve later token = .ok account.id) := by
  intro w w₁
  have hsound : AccountStore.Sound w.accounts :=
    World.sound_afterSession (hnobody ▸ AccountStore.sound_empty) sv earlier
  obtain ⟨account, hregistered, hstored, hid, hemail', hhash', hinactive⟩ :=
    World.carryOut_register sv hsound hname hemail hpassword hfree hhash hsome htrim now
  have hsound₁ : AccountStore.Sound w₁.accounts := (World.keeps_carryOut hsound sv now _ salt).1
  refine ⟨account, hregistered, fun x t text hspells => ?_⟩
  intro w₂
  have hsound₂ : AccountStore.Sound w₂.accounts := World.sound_afterSession hsound₁ sv x
  obtain ⟨b, hb, hages⟩ := World.keeps_afterSession hsound₁ sv x account.id account hstored
  have hassigned : account.id.isAssigned = true := by
    rw [hid]
    rfl
  obtain ⟨c, changed, hactivated, hc, hbc, hactive⟩ :=
    World.carryOut_activate sv hsound₂ hassigned hb t
  refine ⟨fun hnobody' => ?_, fun other hother => ?_, ⟨_, hactivated⟩, fun y issued => ?_⟩
  · -- without an activation the account is as it was registered
    have hsame := World.findById_afterSession hsound₁ sv hnobody' hstored
    rw [World.carryOut_signIn sv hsound₂ hsame (hemail' ▸ hspells), hhash', hverify, hinactive]
    rfl
  · rw [World.carryOut_signIn sv hsound₂ hb (hages.email_eq ▸ hemail' ▸ hspells),
      hages.passwordHash_eq, hhash', hother]
    rfl
  · intro w₃
    obtain ⟨hsound', -⟩ := World.keeps_carryOut hsound₂ sv t (.activate account.id) []
    have hsound₃ : AccountStore.Sound w₃.accounts := World.sound_afterSession hsound' sv y
    obtain ⟨d, hd, hcd⟩ := World.keeps_afterSession hsound' sv y account.id c hc
    have haged : account.Ages d := (hages.trans hbc).trans hcd
    have hspells₃ : Email.Spells text d.email := by
      rw [haged.email_eq, hemail']
      exact hspells
    have hsign := World.carryOut_signIn sv hsound₃ hd hspells₃ issued
    rw [haged.passwordHash_eq, hhash', hcd.activated hactive, haged.id_eq, hissue] at hsign
    obtain ⟨token, htoken, hresolve⟩ := tokens.exists_issue d
      (by rw [haged.id_eq, hid]; exact hroom) (by rw [haged.id_eq, hid]; exact Nat.succ_ne_zero _)
      issued
    refine ⟨fun other hother => ?_, token, ?_, ?_⟩
    · rw [hsign, hother]
      rfl
    · rw [hsign, hverify, htoken]
      rfl
    · rw [haged.id_eq] at hresolve
      exact hresolve

/-- Ada signs in with her address in capitals, with a blank in front, but not before her account is
active, and then has a token for an hour and a minute. -/
theorem ada_signs_in_once_activated :
    let tokens : TokenService := { secret := "secret", issuer := "desk", lifetime := 3600 }
    let sv : Services :=
      { hash := fun _ plaintext => .ok ("$" ++ plaintext ++ "$")
        verify := fun plaintext hash => hash == "$" ++ plaintext ++ "$"
        issue := tokens.issue }
    let w : World := { now := .epoch }
    let w₁ := (w.carryOut sv .epoch (.register "Ada" "ada@example.com" "Passw0rd!")).2
    ∃ account, (w.carryOut sv .epoch (.register "Ada" "ada@example.com" "Passw0rd!")).1 =
        .ok account ∧
      (w₁.carryOut sv .epoch (.signIn " ADA@EXAMPLE.COM" "Passw0rd!")).1 =
        .error .notActivated ∧
      (w₁.carryOut sv .epoch (.signIn "ada@example.com" "passw0rd!")).1 =
        .error .wrongCredentials ∧
      ∃ token, ((w₁.carryOut sv .epoch (.activate account.id)).2.carryOut sv .epoch
            (.signIn " ADA@EXAMPLE.COM" "Passw0rd!")).1 = .ok { user := account.id, token } ∧
        tokens.resolve ⟨3660, 0, by decide, by decide⟩ token = .ok account.id := by
  intro tokens sv w w₁
  have hname : PersonName.ofText "Ada" = .ok ⟨"Ada", by decide +kernel⟩ := by decide +kernel
  have hrules : Password.flaw? "Passw0rd!".toList = none := by decide +kernel
  let address : Email := ⟨"ada@example.com", by decide +kernel⟩
  obtain ⟨account, hregistered, hlater⟩ := sign_up_leads_to_token tokens sv rfl w rfl ⟨[], []⟩
    hname (Email.ofText_text address) (Password.ofText_of_flaw?_eq_none hrules) rfl (by decide)
    rfl (by decide +kernel) (by decide +kernel) (by decide +kernel) .epoch
  have hcapitals : Email.Spells " ADA@EXAMPLE.COM" address := by decide +kernel
  obtain ⟨hbefore, -, -, hafter⟩ := hlater ⟨[], []⟩ .epoch " ADA@EXAMPLE.COM" hcapitals
  obtain ⟨-, hwrong, -, -⟩ := hlater ⟨[], []⟩ .epoch address.text (Email.spells_text address)
  obtain ⟨-, token, htoken, hresolve⟩ := hafter ⟨[], []⟩ .epoch
  rw [World.afterSession_idle] at hbefore hwrong
  rw [World.afterSession_idle, World.afterSession_idle] at htoken
  exact ⟨account, hregistered, hbefore List.not_mem_nil, hwrong "passw0rd!" (by decide +kernel),
    token, htoken, hresolve (by decide) ⟨3660, 0, by decide, by decide⟩ (by decide +kernel)⟩

end RecurringBilling
