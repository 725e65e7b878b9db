import RecurringBilling.Proofs.Identity.PersonNames
import RecurringBilling.Proofs.Identity.SignUp
import RecurringBilling.Proofs.Interleaving.Progress
import RecurringBilling.Proofs.Interleaving.Runs

/-!
# Racing registrations

Several registrations with addresses of one free mailbox race each other.  All of them may find the
mailbox free before any of them stores its account, but the store looks once more when it writes.
So the first account that is drawn up and reaches the store is the only one that is stored, and
whoever comes later is refused, at the look-up or by the store.
-/

namespace RecurringBilling

open RecurringBilling.Calendar RecurringBilling.Text

/-! ## Where a registration stands -/

/-- The account is one that the registration draws up: inactive, with the name and the address that
it was given. -/
def UseCase.Drafts : UseCase → UserAccount → Prop
  | .register name email _, a =>
    a.name.text = trimmed name ∧ a.email.text = trimmed email ∧ a.activated = false
  | _, _ => False

/-- Where a registration stands. -/
inductive Registration where
  | pending
  | refused
  | stored (account : UserAccount)

namespace Registration

/-- How an exchange moves the registration. -/
def after : Registration → Exchange → Registration
  | _, { request := .findAccountByEmail _, answer := .ok (some _), injected := _ } => .refused
  | _, { request := .createAccount _, answer := .ok account, injected := _ } => .stored account
  | _, { request := .createAccount _, answer := .error _, injected := _ } => .refused
  | st, _ => st

/-- What a registration may rely on: the look-up does not fail, the hash is not blank, and an
account is refused only because its mailbox is in use. -/
def rely : Exchange → Prop
  | { request := .findAccountByEmail _, answer, injected := _ } => ∃ found, answer = .ok found
  | { request := .hashPassword _, answer, injected := _ } =>
    ∃ hash, answer = some (.ok hash) ∧ trim hash.toList ≠ []
  | { request := .createAccount _, answer, injected := _ } =>
    ∀ f, answer = .error f → f = AccountStore.emailInUse
  | _ => True

/-- What a registration asks: it looks its own address up, and creates the account that it draws
up. -/
def Asks (u : UseCase) : Request → Prop
  | .clock | .hashPassword _ => True
  | .findAccountByEmail address =>
    ∃ name email password, u = .register name email password ∧ address.text = trimmed email
  | .createAccount a => u.Drafts a
  | _ => False

/-- How a registration may end. -/
def Ends : (u : UseCase) → Registration → u.Outcome → Prop
  | .register _ _ _, .stored a, outcome => outcome = .ok a
  | .register _ _ _, .refused, outcome => outcome = .error .emailInUse
  | _, _, _ => False

/-- The conduct of a registration: once it is refused or its account is stored, it asks nothing
more. -/
def ofUseCase (u : UseCase) : Conduct Registration u.Outcome where
  after := after
  allows := fun st r => st = .pending ∧ Asks u r
  ends := Ends u
  rely := rely

section Programs

variable {name email password : String} {fullName : PersonName} {address : Email}

theorem of_ready {log : List Exchange} {hash : String} {now : Instant}
    (h : Register.Ready name email password log address hash now) :
    log.foldl after .pending = .pending := by
  cases h
  rfl

theorem asks_of_asks {log : List Exchange} {r : Request}
    (h : Register.Asks name email password log r) :
    log.foldl after .pending = .pending ∧ Asks (.register name email password) r := by
  cases h with
  | look h =>
    exact ⟨rfl, name, email, password, rfl, Email.reader.ofText_eq_ok_iff.mp h.email⟩
  | hash | stamp => exact ⟨rfl, trivial⟩
  | store h hcreate =>
    obtain ⟨secret, ⟨fullName, hname⟩, hemail, -⟩ := h.reads
    rw [UserAccount.create_text hname] at hcreate
    split at hcreate
    · cases hcreate
    · cases hcreate
      exact ⟨of_ready h, PersonName.reader.ofText_eq_ok_iff.mp hname,
        Email.reader.ofText_eq_ok_iff.mp hemail, rfl⟩

/-- Where no rule is broken and the look-up and the hash do not fail, whoever is not stored is
refused. -/
theorem ends_of_ends (hname : PersonName.ofText name = .ok fullName)
    (hemail : Email.ofText email = .ok address) {secret : Password}
    (hpassword : Password.ofText password = .ok secret) {log : List Exchange}
    {a : Except IdentityError UserAccount} (h : Register.Ends name email password log a)
    (hrely : ∀ e ∈ log, rely e) :
    Ends (.register name email password) (log.foldl after .pending) a := by
  cases h with
  | badName hbad =>
    rw [hname] at hbad
    cases hbad
  | badEmail hbad =>
    rw [hemail] at hbad
    cases hbad
  | badPassword hbad =>
    rw [hpassword] at hbad
    cases hbad
  | lookFailed _ f i =>
    obtain ⟨_, hfound⟩ := hrely _ List.mem_cons_self
    cases hfound
  | taken _ a i => exact rfl
  | hashDied _ i j =>
    obtain ⟨_, hhashed, -⟩ := hrely _ (List.mem_cons_of_mem _ List.mem_cons_self)
    cases hhashed
  | hashFailed _ f i j =>
    obtain ⟨_, hhashed, -⟩ := hrely _ (List.mem_cons_of_mem _ List.mem_cons_self)
    cases hhashed
  | unsound h hcreate =>
    -- the name was read and the hash is not blank, so the account is drawn up
    obtain ⟨_, hhash⟩ := h.told_hash
    obtain ⟨_, _, hhashed, hfull⟩ := hhash.rely hrely
    cases hhashed
    rw [UserAccount.create_text hname, if_neg hfull] at hcreate
    cases hcreate
  | unstored h hcreate f i =>
    obtain rfl : f = AccountStore.emailInUse :=
      hrely _ (List.mem_append_right _ List.mem_cons_self) f rfl
    rw [List.foldl_concat]
    exact rfl
  | stored h hcreate x i =>
    rw [List.foldl_concat]
    exact rfl

/-- A registration that breaks no rule ends as stored or as refused. -/
theorem obeys_register (hname : PersonName.ofText name = .ok fullName)
    (hemail : Email.ofText email = .ok address) {secret : Password}
    (hpassword : Password.ofText password = .ok secret) :
    (register name email password).Obeys (ofUseCase (.register name email password)) .pending :=
  (Register.follows name email password).obeys (fun _ _ h _ => asks_of_asks h)
    fun _ _ => ends_of_ends hname hemail hpassword

end Programs

/-- Where hashing succeeds, the world is one that registrations may rely on. -/
theorem rely_serve {sv : Services}
    (hhash : ∀ salt plaintext, ∃ hash,
      sv.hash salt plaintext = .ok hash ∧ trim hash.toList ≠ [])
    (w : World) (r : Request) :
    rely { request := r, answer := (w.serve sv r).1, injected := false } := by
  cases r with
  | findAccountByEmail address => exact ⟨_, rfl⟩
  | hashPassword plaintext =>
    obtain ⟨hash, hhashed, hfull⟩ := hhash w.salt plaintext
    exact ⟨hash, congrArg some hhashed, hfull⟩
  | createAccount a =>
    intro f hf
    simp only [World.serve, AccountStore.create] at hf
    split at hf
    · exact (Except.error.inj hf).symm
    · cases hf
  | _ => exact trivial

end Registration

/-! ## The entrants -/

/-- A registration that breaks no rule, with an address of the mailbox. -/
def UseCase.RegistersAt (mailbox : Email) (u : UseCase) : Prop :=
  ∃ name email password, u = .register name email password ∧
    (∃ fullName, PersonName.ofText name = .ok fullName) ∧
    (∃ address, Email.ofText email = .ok address ∧ address.SameMailbox mailbox) ∧
    ∃ secret, Password.ofText password = .ok secret

namespace UseCase

variable {mailbox : Email} {u : UseCase}

theorem registersAt_of_rules {name email password : String}
    (hname : PersonName.flaw? (trim name.toList) = none) (hemail : Email.Spells email mailbox)
    (hpassword : Password.flaw? password.toList = none) :
    (register name email password).RegistersAt mailbox :=
  ⟨name, email, password, rfl, PersonName.reader.exists_ofText_iff.mpr hname,
    Email.ofText_of_spells hemail, _, Password.ofText_of_flaw?_eq_none hpassword⟩

theorem RegistersAt.obeys (h : u.RegistersAt mailbox) :
    u.program.Obeys (Registration.ofUseCase u) .pending := by
  obtain ⟨name, email, password, rfl, ⟨fullName, hname⟩, ⟨address, hemail, -⟩, secret,
    hpassword⟩ := h
  exact Registration.obeys_register hname hemail hpassword

/-- Whoever looks an address up, or draws an account up, does so for the mailbox. -/
theorem RegistersAt.sameMailbox {name email password : String}
    (h : (register name email password).RegistersAt mailbox) {address : Email}
    (haddress : address.text = trimmed email) : address.SameMailbox mailbox := by
  obtain ⟨_, _, _, heq, -, ⟨given, hemail, hsame⟩, -⟩ := h
  cases heq
  obtain rfl : address = given :=
    Email.reader.text_inj (haddress.trans (Email.reader.ofText_eq_ok_iff.mp hemail).symm)
  exact hsame

theorem RegistersAt.sameMailbox_of_drafts (h : u.RegistersAt mailbox) {a : UserAccount}
    (ha : u.Drafts a) : a.email.SameMailbox mailbox := by
  obtain ⟨name, email, password, rfl, -⟩ := id h
  exact h.sameMailbox ha.2.1

end UseCase

namespace Task

variable {t : Task}

/-- Where the registration of a use case stands. -/
def registration (t : Task) : Registration := t.stateBy Registration.ofUseCase .pending

theorem registration_advance {r : Request} (next : r.Answer → Program t.useCase.Outcome)
    (answer : r.Answer) (injected : Bool) :
    (t.advance r next answer injected).registration =
      t.registration.after { request := r, answer, injected } :=
  stateBy_advance _ _ _ _ _ _

/-- A registration that has returned has its account stored and says so, or it was refused and says
so. -/
theorem returned_of_obeys (h : t.Obeys Registration.ofUseCase .pending)
    {name email password : String} (hu : t.useCase = .register name email password)
    (hover : t.isOver = true) :
    (∃ a, t.registration = .stored a ∧ t.Returned (.register name email password) (.ok a)) ∨
      t.registration = .refused ∧
        t.Returned (.register name email password) (.error .emailInUse) := by
  obtain ⟨u, log, rest⟩ := t
  cases hu
  cases rest with
  | call r next => cases hover
  | done outcome =>
    have hends : Registration.Ends (.register name email password) (registration _) outcome := h
    cases hst : registration ⟨.register name email password, log, .done outcome⟩ with
    | pending =>
      rw [hst] at hends
      exact absurd hends id
    | refused =>
      rw [hst] at hends
      cases hends
      exact Or.inr ⟨rfl, log, rfl⟩
    | stored a =>
      rw [hst] at hends
      cases hends
      exact Or.inl ⟨a, rfl, log, rfl⟩

end Task

/-! ## The race -/

namespace Scene

open AccountStore (Sound findByEmail findById)

variable {sv : Services} {mailbox : Email} {before : AccountStore} {s : Scene}

/-- No account has been stored so far, and nobody has been refused. -/
structure Undecided (before : AccountStore) (s : Scene) : Prop where
  accounts : s.world.accounts = before
  pending : ∀ t ∈ s.tasks, t.registration = .pending

/-- One registration has stored the account that it has drawn up, and no other one has stored
anything. -/
structure WonBy (before : AccountStore) (i : Nat) (a : UserAccount) (s : Scene) : Prop where
  accounts : s.world.accounts = (before.add fun id => a.withId ⟨id⟩).2
  winner : ∃ t, s.tasks[i]? = some t ∧ t.useCase.Drafts a ∧
    t.registration = .stored (a.withId ⟨before.lastId + 1⟩)
  others : ∀ j t, s.tasks[j]? = some t → j ≠ i →
    t.registration = .pending ∨ t.registration = .refused

/-- Registrations at one mailbox keep to their conduct, and at most one of them has stored an
account. -/
structure Contested (mailbox : Email) (before : AccountStore) (s : Scene) : Prop where
  entrants : ∀ t ∈ s.tasks, t.useCase.RegistersAt mailbox
  obeys : ∀ t ∈ s.tasks, t.Obeys Registration.ofUseCase .pending
  standing : s.Undecided before ∨ ∃ i a, s.WonBy before i a

theorem contested_start (w : World) {calls : List UseCase}
    (hcalls : ∀ u ∈ calls, u.RegistersAt mailbox) :
    (start w calls).Contested mailbox w.accounts where
  entrants := forall_mem_start w hcalls
  obeys := forall_mem_start w fun u hu => (hcalls u hu).obeys
  standing := Or.inl { accounts := rfl, pending := forall_mem_start w fun _ _ => rfl }

theorem Undecided.replace (h : s.Undecided before) {w : World} (hw : w.accounts = before)
    {i : Nat} {t : Task} (ht : t.registration = .pending) :
    Undecided before { world := w, tasks := s.tasks.set i t } where
  accounts := hw
  pending := forall_mem_set h.pending ht

/-- Whoever goes on without storing anything leaves the winner the winner. -/
theorem WonBy.replace {i j : Nat} {a : UserAccount} (h : s.WonBy before i a) {w : World}
    (hw : w.accounts = s.world.accounts) (hj : j ≠ i) {t : Task}
    (ht : t.registration = .pending ∨ t.registration = .refused) :
    WonBy before i a { world := w, tasks := s.tasks.set j t } where
  accounts := hw.trans h.accounts
  winner := by
    obtain ⟨x, hx, hwinner⟩ := h.winner
    exact ⟨x, (List.getElem?_set_ne hj).trans hx, hwinner⟩
  others := by
    intro k x hx hk
    by_cases hjk : j = k
    · subst hjk
      obtain ⟨-, rfl⟩ : j < s.tasks.length ∧ t = x := by simpa [List.getElem?_set] using hx
      exact ht
    · exact h.others k x ((List.getElem?_set_ne hjk).symm.trans hx) hk

section Turn

variable {turn : Turn} {t : Task} {r : Request} {next : r.Answer → Program t.useCase.Outcome}

/-- As long as nothing is stored, the mailbox is found free, and the first account that reaches the
store is stored. -/
theorem Undecided.served (h : s.Undecided before) (hsound : Sound before)
    (hfree : findByEmail before mailbox = none) (htask : s.tasks[turn.task]? = some t)
    (hentrant : t.useCase.RegistersAt mailbox) (hasks : Registration.Asks t.useCase r) :
    (s.served sv turn t r next).Undecided before ∨
      ∃ i a, (s.served sv turn t r next).WonBy before i a := by
  have hpending := h.pending t (List.mem_of_getElem? htask)
  have haccounts : (s.world.facing turn).accounts = before := h.accounts
  have hlook : ∀ e : Email, e.SameMailbox mailbox →
      findByEmail (s.world.facing turn).accounts e = none := fun e he => by
    rw [haccounts, AccountStore.findByEmail_congr before he, hfree]
  cases r with
  | clock | hashPassword plaintext =>
    refine Or.inl (h.replace haccounts ?_)
    rw [Task.registration_advance, hpending]
    rfl
  | findAccountByEmail address =>
    obtain ⟨name, email, password, hu, haddress⟩ := hasks
    rw [hu] at hentrant
    refine Or.inl (h.replace haccounts ?_)
    rw [Task.registration_advance, World.serve, World.found,
      hlook address (hentrant.sameMailbox haddress), hpending]
    rfl
  | createAccount a =>
    have hserve := World.serve_createAccount_of_free sv (haccounts ▸ hsound)
      (hlook a.email (hentrant.sameMailbox_of_drafts hasks))
    obtain ⟨hlt, -⟩ := List.getElem?_eq_some_iff.mp htask
    refine Or.inr ⟨turn.task, a, ?_, ⟨_, List.getElem?_set_self hlt, hasks, ?_⟩, ?_⟩
    · show ((s.world.facing turn).serve sv _).2.accounts = _
      rw [hserve, haccounts]
    · rw [Task.registration_advance, hserve, haccounts]
      rfl
    · intro j x hx hj
      have hold : s.tasks[j]? = some x := (List.getElem?_set_ne hj.symm).symm.trans hx
      exact Or.inl (h.pending x (List.mem_of_getElem? hold))
  | _ => exact absurd hasks id

/-- Once an account is stored, the mailbox is taken, and whoever comes later stores nothing. -/
theorem WonBy.served {i : Nat} {a : UserAccount} (h : s.WonBy before i a) (hsound : Sound before)
    (hfree : findByEmail before mailbox = none) (htask : s.tasks[turn.task]? = some t)
    (hall : ∀ t ∈ s.tasks, t.useCase.RegistersAt mailbox) (hpending : t.registration = .pending)
    (hasks : Registration.Asks t.useCase r) :
    (s.served sv turn t r next).WonBy before i a := by
  obtain ⟨x, hx, hdrafts, hstored⟩ := h.winner
  have hturn : turn.task ≠ i := by
    rintro rfl
    -- the winner has nothing left to ask
    obtain rfl : t = x := Option.some.inj (htask.symm.trans hx)
    rw [hpending] at hstored
    cases hstored
  have hmailbox := (hall x (List.mem_of_getElem? hx)).sameMailbox_of_drafts hdrafts
  cases r with
  | clock | hashPassword plaintext =>
    refine h.replace (by rfl) hturn (Or.inl ?_)
    rw [Task.registration_advance, hpending]
    rfl
  | findAccountByEmail address =>
    refine h.replace (by rfl) hturn ?_
    rw [Task.registration_advance, World.serve, World.found, hpending]
    cases findByEmail (s.world.facing turn).accounts address with
    | none => exact Or.inl rfl
    | some found => exact Or.inr rfl
  | createAccount b =>
    have hb := (hall t (List.mem_of_getElem? htask)).sameMailbox_of_drafts hasks
    have hfree' : findByEmail before a.email = none :=
      (AccountStore.findByEmail_congr before hmailbox).trans hfree
    have haccounts : Sound (s.world.facing turn).accounts := by
      show Sound s.world.accounts
      rw [h.accounts]
      exact hsound.add hfree'
    have htaken : findByEmail (s.world.facing turn).accounts b.email =
        some (a.withId ⟨before.lastId + 1⟩) := by
      rw [haccounts.findByEmail_eq_some_iff]
      refine ⟨⟨before.lastId + 1, ?_⟩, hmailbox.trans hb.symm⟩
      show s.world.accounts.find? _ = _
      rw [h.accounts, Store.find?_add, if_pos rfl]
    have hserve := World.serve_createAccount_of_taken sv haccounts htaken
    refine h.replace ?_ hturn (Or.inr ?_)
    · rw [hserve]
      rfl
    · rw [Task.registration_advance, hserve]
      rfl
  | _ => exact absurd hasks id

end Turn

section Run

variable (hhash : ∀ salt plaintext, ∃ hash,
    sv.hash salt plaintext = .ok hash ∧ trim hash.toList ≠ [])
  (hsound : Sound before) (hfree : findByEmail before mailbox = none)

include hhash hsound hfree

theorem Contested.step (h : s.Contested mailbox before) {turn : Turn}
    (hfault : turn.fault = none) : (s.step sv turn).Contested mailbox before := by
  rcases s.step_cases_of_no_fault sv hfault with hidle | ⟨t, r, next, htask, hrest, hserved⟩
  · rw [hidle]
    exact h
  · rw [hserved]
    have ht := List.mem_of_getElem? htask
    obtain ⟨hpending, hasks⟩ := (h.obeys t ht).allows hrest
    refine ⟨forall_mem_set h.entrants (h.entrants t ht), forall_mem_set h.obeys ?_, ?_⟩
    · exact (h.obeys t ht).advance hrest (Registration.rely_serve hhash _ r)
    · rcases h.standing with hundecided | ⟨i, a, hwon⟩
      · exact hundecided.served hsound hfree htask (h.entrants t ht) hasks
      · exact Or.inr ⟨i, a, hwon.served hsound hfree htask h.entrants hpending hasks⟩

theorem Contested.run (h : s.Contested mailbox before) {turns : List Turn}
    (hturns : ∀ turn ∈ turns, turn.fault = none) : (s.run sv turns).Contested mailbox before :=
  run_invariant h fun _ turn hmem hs => hs.step hhash hsound hfree (hturns turn hmem)

end Run

/-- Once all registrations have returned, one of them has stored its account. -/
theorem Contested.wonBy_of_isOver (h : s.Contested mailbox before) (hsome : s.tasks ≠ [])
    (hover : ∀ t ∈ s.tasks, t.isOver = true) : ∃ i a, s.WonBy before i a := by
  rcases h.standing with hundecided | hwon
  · exfalso
    obtain ⟨t, ht⟩ := List.exists_mem_of_ne_nil s.tasks hsome
    obtain ⟨name, email, password, hu, -⟩ := h.entrants t ht
    have hpending := hundecided.pending t ht
    -- nobody returns while it is pending
    rcases Task.returned_of_obeys (h.obeys t ht) hu (hover t ht) with
      ⟨a, hstored, -⟩ | ⟨hrefused, -⟩
    · rw [hpending] at hstored
      cases hstored
    · rw [hpending] at hrefused
      cases hrefused
  · exact hwon

/-- When the winner has returned, it has given back the account that was stored. -/
theorem Contested.returned_of_wonBy (h : s.Contested mailbox before) {i : Nat} {a : UserAccount}
    (hwon : s.WonBy before i a) (hover : ∀ t ∈ s.tasks, t.isOver = true) :
    ∃ name email password t, s.tasks[i]? = some t ∧
      (UseCase.register name email password).Drafts a ∧
      t.Returned (.register name email password) (.ok (a.withId ⟨before.lastId + 1⟩)) := by
  obtain ⟨t, ht, hdrafts, hstored⟩ := hwon.winner
  have hmem := List.mem_of_getElem? ht
  obtain ⟨name, email, password, hu, -⟩ := h.entrants t hmem
  refine ⟨name, email, password, t, ht, hu ▸ hdrafts, ?_⟩
  rcases Task.returned_of_obeys (h.obeys t hmem) hu (hover t hmem) with
    ⟨b, hb, hreturned⟩ | ⟨hrefused, -⟩
  · rw [hstored] at hb
    cases hb
    exact hreturned
  · rw [hstored] at hrefused
    cases hrefused

/-- Whoever else has returned has reported that the address is in use. -/
theorem Contested.refused_of_wonBy (h : s.Contested mailbox before) {i : Nat} {a : UserAccount}
    (hwon : s.WonBy before i a) {j : Nat} {t : Task} (ht : s.tasks[j]? = some t) (hj : j ≠ i)
    (hover : t.isOver = true) {name email password : String}
    (hu : t.useCase = .register name email password) :
    t.Returned (.register name email password) (.error .emailInUse) := by
  rcases Task.returned_of_obeys (h.obeys t (List.mem_of_getElem? ht)) hu hover with
    ⟨b, hb, -⟩ | ⟨-, hreturned⟩
  · -- only the winner has stored an account
    rcases hwon.others j t ht hj with hpending | hrefused
    · rw [hpending] at hb
      cases hb
    · rw [hrefused] at hb
      cases hb
  · exact hreturned

/-- The store has gained the account of the winner and nothing else. -/
theorem WonBy.findById {i : Nat} {a : UserAccount} (h : s.WonBy before i a) (id : UserId) :
    findById s.world.accounts id =
      if id = ⟨before.lastId + 1⟩ then some (a.withId ⟨before.lastId + 1⟩)
      else findById before id := by
  rw [h.accounts, AccountStore.findById, Store.find?_add]
  by_cases hid : id = ⟨before.lastId + 1⟩
  · rw [if_pos hid, hid]
    exact if_pos rfl
  · rw [if_neg hid]
    exact if_neg fun hvalue => hid (congrArg UserId.mk hvalue)

end Scene

/-! ## Who wins -/

namespace Scene

open AccountStore (findByEmail findById)

/-- When registrations that break no rule race each other for a free mailbox, in any turns without
faults, four turns are enough for each.  Once all have returned, exactly one has succeeded and
every other one has reported that the address is in use; and the store has gained the account of
that one, inactive, under a new identifier, with the name and address that were given but for the
blanks around them. -/
theorem one_racing_registration_wins (sv : Services)
    (hhash : ∀ salt plaintext, ∃ hash,
      sv.hash salt plaintext = .ok hash ∧ trim hash.toList ≠ [])
    (w : World) (history : List AccountStore.Call)
    (hstore : w.accounts = AccountStore.run history) (mailbox : Email)
    (hfree : findByEmail w.accounts mailbox = none) (calls : List UseCase) (hsome : calls ≠ [])
    (hcalls : ∀ u ∈ calls, u.RegistersAt mailbox) (turns : List Turn)
    (hturns : ∀ turn ∈ turns, turn.fault = none) :
    let s := (start w calls).run sv turns
    (∀ i t, s.tasks[i]? = some t →
      4 ≤ turns.countP (fun turn => decide (turn.task = i)) → t.isOver = true) ∧
    ((∀ t ∈ s.tasks, t.isOver = true) →
      ∃ (i : Nat) (name email password : String) (account : UserAccount),
        calls[i]? = some (.register name email password) ∧
        (∃ t, s.tasks[i]? = some t ∧ t.Returned (.register name email password) (.ok account)) ∧
        (∀ (j : Nat) (name' email' password' : String), j ≠ i →
          calls[j]? = some (.register name' email' password') →
          ∃ t, s.tasks[j]? = some t ∧
            t.Returned (.register name' email' password') (.error .emailInUse)) ∧
        -- what has been stored
        account.name.text = trimmed name ∧ account.email.text = trimmed email ∧
        account.activated = false ∧ account.id = ⟨w.accounts.lastId + 1⟩ ∧
        findById w.accounts account.id = none ∧
        ∀ id, findById s.world.accounts id =
          if id = account.id then some account else findById w.accounts id) := by
  intro s
  have huseCases : ∀ i : Nat, s.tasks[i]?.map Task.useCase = calls[i]? := fun i => by
    rw [← List.getElem?_map, run_useCases]
  refine ⟨fun i t ht hcount => ?_, fun hover => ?_⟩
  · have hu : calls[i]? = some t.useCase := by rw [← huseCases, ht]; rfl
    obtain ⟨name, email, password, hregister, -⟩ := hcalls _ (List.mem_of_getElem? hu)
    have hasks : t.useCase.program.AsksAtMost 4 := by
      rw [hregister]
      exact asksAtMost_register name email password
    obtain ⟨t', ht', -, hover⟩ := isOver_of_turns sv w turns hu hasks hcount
    obtain rfl : t = t' := Option.some.inj (ht.symm.trans ht')
    exact hover
  · have hsound : AccountStore.Sound w.accounts := hstore ▸ AccountStore.sound_run history
    have hcontested : s.Contested mailbox w.accounts :=
      (contested_start w hcalls).run hhash hsound hfree hturns
    have htasks : s.tasks ≠ [] := by
      intro hnil
      have hmap := run_useCases sv w calls turns
      rw [show ((start w calls).run sv turns).tasks = [] from hnil] at hmap
      exact hsome hmap.symm
    obtain ⟨i, a, hwon⟩ := hcontested.wonBy_of_isOver htasks hover
    obtain ⟨name, email, password, t, ht, hdrafts, hreturned⟩ :=
      hcontested.returned_of_wonBy hwon hover
    refine ⟨i, name, email, password, a.withId ⟨w.accounts.lastId + 1⟩, ?_, ⟨t, ht, hreturned⟩,
      ?_, hdrafts.1, hdrafts.2.1, hdrafts.2.2, rfl, ?_, hwon.findById⟩
    · obtain ⟨log, rfl⟩ := hreturned
      rw [← huseCases, ht]
      rfl
    · intro j name' email' password' hj hu
      rw [← huseCases] at hu
      obtain ⟨t', ht', hu⟩ := Option.map_eq_some_iff.mp hu
      exact ⟨t', ht', hcontested.refused_of_wonBy hwon ht' hj
        (hover t' (List.mem_of_getElem? ht')) hu⟩
    · rw [Option.eq_none_iff_forall_ne_some]
      intro b hb
      -- identifiers have been handed out up to the last one only
      have hissued := hsound.ordered.issued_of_find? hb
      exact absurd hissued.2 (Nat.not_succ_le_self _)

/-- Ada and Ida register with one address, in different letters, and take turns: both find it free,
and only one of them is stored. -/
theorem one_of_two_namesakes_registers :
    let calls : List UseCase :=
      [.register "Ada" "ada@example.com" "Passw0rd!", .register "Ida" "ADA@example.com " "Pa$$w0rd"]
    let sv : Services := { Services.lenient with hash := fun _ _ => .ok "$argon2id$stub" }
    let s := (start { now := .epoch } calls).run sv
      (Turn.inOrder .epoch [0, 1, 0, 1, 0, 1, 1, 0])
    s.isOver = true ∧
      ∃ (i : Nat) (name email password : String) (account : UserAccount),
        calls[i]? = some (.register name email password) ∧
        (∃ t, s.tasks[i]? = some t ∧ t.Returned (.register name email password) (.ok account)) ∧
        account.activated = false ∧ findById s.world.accounts ⟨1⟩ = some account := by
  intro calls sv s
  let mailbox : Email := ⟨"ada@example.com", by decide +kernel⟩
  have hcalls : ∀ u ∈ calls, u.RegistersAt mailbox := by
    refine List.forall_mem_cons.mpr ⟨?_, List.forall_mem_singleton.mpr ?_⟩
    · exact UseCase.registersAt_of_rules (by decide +kernel) (by decide +kernel)
        (by decide +kernel)
    · exact UseCase.registersAt_of_rules (by decide +kernel) (by decide +kernel)
        (by decide +kernel)
  have hover : s.isOver = true := by decide +kernel
  obtain ⟨-, hwon⟩ := one_racing_registration_wins sv
    (fun _ _ => ⟨"$argon2id$stub", rfl, by decide +kernel⟩) { now := .epoch } [] rfl mailbox rfl
    calls (List.cons_ne_nil _ _) hcalls (Turn.inOrder .epoch [0, 1, 0, 1, 0, 1, 1, 0]) (by decide)
  obtain ⟨i, name, email, password, account, hcall, hreturned, -, -, -, hinactive, hid, -,
    hfound⟩ := hwon (List.all_eq_true.mp hover)
  refine ⟨hover, i, name, email, password, account, hcall, hreturned, hinactive, ?_⟩
  rw [hfound]
  exact if_pos hid.symm

end Scene

end RecurringBilling
