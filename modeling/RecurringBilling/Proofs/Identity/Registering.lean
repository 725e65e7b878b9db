import RecurringBilling.Proofs.Identity.AddressRules
import RecurringBilling.Proofs.Identity.PersonNames
import RecurringBilling.Proofs.Identity.SignUp
import RecurringBilling.Proofs.Interleaving.Runs

/-!
# Registering in order

Name, address and password are checked in this order, and whatever breaks a rule is told before
anything has been asked.  After that nothing is said about them any more: the account is drawn up
from the name as it was given and from the address as it was read, which pass their checks a second
time.  The password is hashed at most once, and only when the address has been found free.
-/

namespace RecurringBilling

open RecurringBilling.Calendar RecurringBilling.Text

/-- The error tells a rule that a name, an address or a password breaks. -/
def IdentityError.tellsRule : IdentityError → Bool
  | .name _ | .email _ | .password _ => true
  | _ => false

/-- No failure of a store stands for a rule that is broken. -/
theorem IdentityError.tellsRule_ofFailure (f : Failure) : (ofFailure f).tellsRule = false := by
  unfold ofFailure
  split <;> rfl

/-- What is asked is the hash of a password. -/
def Exchange.isHashing (e : Exchange) : Bool :=
  match e.request with
  | .hashPassword _ => true
  | _ => false

/-- What comes only where it has not been before comes once at most. -/
theorem countP_le_one_of_places {α : Type} {p : α → Bool} {l : List α}
    (h : ∀ earlier a later, l = earlier ++ a :: later → p a = true → ∀ b ∈ earlier, p b = false) :
    l.countP p ≤ 1 := by
  induction l using List.reverseRecOn with
  | nil => exact Nat.zero_le 1
  | append_singleton l a ih =>
    have hl : l.countP p ≤ 1 := ih fun earlier b later hsplit hb =>
      h earlier b (later ++ [a]) (by rw [hsplit, List.append_assoc, List.cons_append]) hb
    cases ha : p a with
    | false => simpa [ha] using hl
    | true =>
      have hnone : l.countP p = 0 :=
        List.countP_eq_zero.mpr fun b hb => by simp [h l a [] rfl ha b hb]
      simp [ha, hnone]

namespace UserAccount

/-- An account that is drawn up from a name that has been read, and from the text of an address, can
lack nothing but the hash. -/
theorem eq_of_create_error {name : String} {fullName : PersonName}
    (hname : PersonName.ofText name = .ok fullName) (address : Email) {hash : String}
    {now : Instant} {e : IdentityError} (h : create name address.text hash now = .error e) :
    e = .passwordHashMissing := by
  rw [create_text hname] at h
  split at h
  · exact (Except.error.inj h).symm
  · cases h

end UserAccount

namespace Register

/-- The conduct of registering: the password is hashed once, after the address has been found free,
and no rule is told. -/
def inOrder (address : Email) (password : String) :
    Conduct (List Exchange) (Except IdentityError UserAccount) where
  after := fun log e => log ++ [e]
  allows := fun log r => ∀ plaintext, r = .hashPassword plaintext →
    plaintext = password ∧ Told log (.findAccountByEmail address) (.ok none) ∧
      ∀ e ∈ log, e.isHashing = false
  ends := fun _ outcome => ∀ e, outcome = .error e → e.tellsRule = false

section Places

variable {name email password : String} {fullName : PersonName} {address : Email}
  {secret : Password} {log : List Exchange}

theorem inOrder_of_asks (hemail : Email.ofText email = .ok address)
    (hpassword : Password.ofText password = .ok secret) {r : Request}
    (h : Asks name email password log r) : (inOrder address secret.plaintext).allows log r := by
  cases h with
  | hash h i =>
    rintro _ ⟨⟩
    obtain rfl := Except.ok.inj (hemail.symm.trans h.email)
    obtain rfl := Except.ok.inj (hpassword.symm.trans h.password)
    exact ⟨rfl, .head _ _ i _, List.forall_mem_singleton.mpr rfl⟩
  | _ => exact nofun

theorem inOrder_of_ends (hname : PersonName.ofText name = .ok fullName)
    (hemail : Email.ofText email = .ok address) (hpassword : Password.ofText password = .ok secret)
    {a : Except IdentityError UserAccount} (h : Ends name email password log a) :
    (inOrder address secret.plaintext).ends log a := by
  cases h with
  | badName hbad =>
    rw [hname] at hbad
    cases hbad
  | badEmail hbad =>
    rw [hemail] at hbad
    cases hbad
  | badPassword hbad =>
    rw [hpassword] at hbad
    cases hbad
  | lookFailed _ f _ =>
    rintro _ ⟨⟩
    exact IdentityError.tellsRule_ofFailure f
  | taken | hashDied | hashFailed =>
    rintro _ ⟨⟩
    rfl
  | unsound _ hcreate =>
    rintro _ ⟨⟩
    rw [UserAccount.eq_of_create_error hname _ hcreate]
    rfl
  | unstored _ _ f _ =>
    rintro _ ⟨⟩
    exact IdentityError.tellsRule_ofFailure f
  | stored => exact nofun

/-- A registration whose inputs break no rule keeps to the order. -/
theorem obeys_inOrder (hname : PersonName.ofText name = .ok fullName)
    (hemail : Email.ofText email = .ok address)
    (hpassword : Password.ofText password = .ok secret) :
    (register name email password).Obeys (inOrder address secret.plaintext) [] := by
  refine (follows name email password).obeys (fun log r h _ => ?_) fun log a h _ => ?_
  all_goals rw [Conduct.foldl_after_eq_append fun _ _ => rfl, List.nil_append]
  · exact inOrder_of_asks hemail hpassword h
  · exact inOrder_of_ends hname hemail hpassword h

end Places

/-- How registering goes on with an address once the inputs have passed their checks. -/
structure CarriesOn (address : Email) (password : String) (log : List Exchange)
    (outcome : Except IdentityError UserAccount) : Prop where
  tellsNoRule : ∀ e, outcome = .error e → e.tellsRule = false
  hashesOnce : log.countP Exchange.isHashing ≤ 1
  hashesLate : ∀ earlier e later plaintext, log = earlier ++ e :: later →
    e.request = .hashPassword plaintext →
    plaintext = password ∧ Told earlier (.findAccountByEmail address) (.ok none)

theorem carriesOn_of_runs {name email password : String} {fullName : PersonName}
    (hname : PersonName.ofText name = .ok fullName) {address : Email}
    (hemail : Email.ofText email = .ok address) {secret : Password}
    (hpassword : Password.ofText password = .ok secret) {log : List Exchange}
    {outcome : Except IdentityError UserAccount}
    (hruns : (register name email password).Runs log outcome) :
    CarriesOn address secret.plaintext log outcome := by
  obtain ⟨hplaces, hends⟩ :=
    (obeys_inOrder hname hemail hpassword).of_runs hruns fun _ _ => trivial
  have hseen : ∀ earlier : List Exchange,
      earlier.foldl (inOrder address secret.plaintext).after [] = earlier :=
    Conduct.foldl_after_eq_append (fun _ _ => rfl) []
  have hhashes : ∀ earlier e later plaintext, log = earlier ++ e :: later →
      e.request = .hashPassword plaintext → plaintext = secret.plaintext ∧
        Told earlier (.findAccountByEmail address) (.ok none) ∧
        ∀ x ∈ earlier, x.isHashing = false := by
    intro earlier e later plaintext hlog hrequest
    have hallows := hplaces earlier e later hlog
    rw [hseen] at hallows
    exact hallows plaintext hrequest
  refine ⟨hends, countP_le_one_of_places fun earlier e later hlog he => ?_, ?_⟩
  · unfold Exchange.isHashing at he
    split at he
    · next plaintext hrequest => exact (hhashes earlier e later plaintext hlog hrequest).2.2
    · cases he
  · intro earlier e later plaintext hlog hrequest
    obtain ⟨hplaintext, htold, -⟩ := hhashes earlier e later plaintext hlog hrequest
    exact ⟨hplaintext, htold⟩

end Register

/-- A registration tells the first rule that its name breaks, or else the first one that its address
breaks, or else the first one that its password breaks, and asks nothing then.  If none of them
breaks a rule, whatever it is answered it never tells one, it hashes the password at most once and
only after the address has been found free, and drawing up the account fails for want of a hash
only. -/
theorem registration_checks_once_in_order (name email password : String) :
    ∃ badName badEmail badPassword,
      FirstBroken (PersonName.grammar.Breaks (trim name.toList)) NameFlaw.inOrder badName ∧
      Email.Finds (Email.rules (trim email.toList)) badEmail ∧
      FirstBroken (Password.Breaks password.toList) Password.Flaw.inOrder badPassword ∧
      match badName, badEmail, badPassword with
      | some flaw, _, _ => register name email password = .done (.error (.name flaw))
      | none, some flaw, _ => register name email password = .done (.error (.email flaw))
      | none, none, some flaw => register name email password = .done (.error (.password flaw))
      | none, none, none => ∃ address, Email.ofText email = .ok address ∧
        (∀ log outcome, (register name email password).Runs log outcome →
          Register.CarriesOn address password log outcome) ∧
        ∀ hash now e, UserAccount.create name address.text hash now = .error e →
          e = .passwordHashMissing := by
  refine ⟨_, _, _, PersonName.grammar_isCheckedBy.firstBroken (trim name.toList),
    Email.finds_flaw? (trim email.toList), Password.firstBroken password.toList, ?_⟩
  cases hname : PersonName.rules.flaw? (trim name.toList) with
  | some flaw =>
    have hrefused : PersonName.ofText name = .error flaw :=
      PersonName.reader.ofText_eq_error_iff.mpr hname
    show register name email password = _
    rw [register, hrefused]
  | none =>
    obtain ⟨fullName, hname⟩ : ∃ fullName, PersonName.ofText name = .ok fullName :=
      PersonName.reader.exists_ofText_iff.mpr hname
    cases hemail : Email.flaw? (trim email.toList) with
    | some flaw =>
      have hrefused : Email.ofText email = .error flaw :=
        Email.reader.ofText_eq_error_iff.mpr hemail
      show register name email password = _
      rw [register, hname, hrefused]
    | none =>
      obtain ⟨address, hemail⟩ : ∃ address, Email.ofText email = .ok address :=
        Email.reader.exists_ofText_iff.mpr hemail
      cases hpassword : Password.flaw? password.toList with
      | some flaw =>
        show register name email password = _
        rw [register, hname, hemail, Password.ofText_of_flaw?_eq_some hpassword]
      | none =>
        exact ⟨address, hemail, fun log outcome => Register.carriesOn_of_runs hname hemail
            (Password.ofText_of_flaw?_eq_none hpassword),
          fun hash now e => UserAccount.eq_of_create_error hname address⟩

/-- What Ada gives breaks no rule, so in each run of her registration the order is kept. -/
theorem ada_registers_in_order :
    ∃ address log outcome, Email.ofText " ada@example.com" = .ok address ∧
      (register "Ada" " ada@example.com" "Passw0rd!").Runs log outcome ∧
      Register.CarriesOn address "Passw0rd!" log outcome := by
  obtain ⟨badName, badEmail, badPassword, hname, hemail, hpassword, hregister⟩ :=
    registration_checks_once_in_order "Ada" " ada@example.com" "Passw0rd!"
  obtain rfl : badName = none :=
    (hname.unique (PersonName.grammar_isCheckedBy.firstBroken _)).trans (by decide +kernel)
  obtain rfl : badEmail = none :=
    (hemail.unique (Email.finds_flaw? _)).trans (by decide +kernel)
  obtain rfl : badPassword = none :=
    (hpassword.unique (Password.firstBroken _)).trans (by decide +kernel)
  obtain ⟨address, hread, hcarries, -⟩ := hregister
  obtain ⟨log, hruns⟩ := (register "Ada" " ada@example.com" "Passw0rd!").exists_runs
    Services.lenient World.kiosk
  exact ⟨address, log, _, hread, hruns, hcarries log _ hruns⟩

end RecurringBilling
