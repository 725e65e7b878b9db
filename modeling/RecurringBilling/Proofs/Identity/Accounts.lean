import RecurringBilling.Proofs.Interleaving.Grounds
import RecurringBilling.Proofs.Interleaving.Sessions
import RecurringBilling.Proofs.Store.Mailboxes

/-!
# Accounts under interleaving

Accounts are created by registrations, and replaced by activations only, each by the copy that
the activation has loaded, made active.  So an account never goes away and stays as it
was registered, but for being activated; and it is not activated as long as nobody
activates it.
-/

namespace RecurringBilling

open RecurringBilling.Calendar

/-! ## Accounts over time -/

namespace UserAccount

/-- The account is the same, or has been activated. -/
def Ages (a b : UserAccount) : Prop := b = a ∨ ∃ now, b = a.activate now

theorem Ages.refl (a : UserAccount) : a.Ages a := Or.inl rfl

/-- Whoever activates an account as it once was makes it what it would be by now. -/
theorem Ages.activate {a b : UserAccount} (h : a.Ages b) (now : Instant) :
    a.activate now = b.activate now := by
  rcases h with rfl | ⟨_, rfl⟩ <;> rfl

theorem Ages.trans {a b c : UserAccount} (h : a.Ages b) (h' : b.Ages c) : a.Ages c := by
  rcases h' with rfl | ⟨now, rfl⟩
  · exact h
  · exact Or.inr ⟨now, (h.activate now).symm⟩

theorem Ages.id_eq {a b : UserAccount} (h : a.Ages b) : b.id = a.id := by
  rcases h with rfl | ⟨_, rfl⟩ <;> rfl

theorem Ages.email_eq {a b : UserAccount} (h : a.Ages b) : b.email = a.email := by
  rcases h with rfl | ⟨_, rfl⟩ <;> rfl

theorem Ages.passwordHash_eq {a b : UserAccount} (h : a.Ages b) :
    b.passwordHash = a.passwordHash := by
  rcases h with rfl | ⟨_, rfl⟩ <;> rfl

theorem Ages.activated {a b : UserAccount} (h : a.Ages b) (ha : a.activated = true) :
    b.activated = true := by
  rcases h with rfl | ⟨_, rfl⟩
  · exact ha
  · rfl

end UserAccount

namespace AccountStore

variable {s s' : AccountStore}

/-- Every account is still there, and has at most been activated. -/
def Keeps (s s' : AccountStore) : Prop :=
  ∀ id a, findById s id = some a → ∃ b, findById s' id = some b ∧ a.Ages b

theorem Keeps.refl (s : AccountStore) : Keeps s s := fun _ a ha => ⟨a, ha, .refl a⟩

theorem Keeps.trans {s'' : AccountStore} (h : Keeps s s') (h' : Keeps s' s'') : Keeps s s'' := by
  intro id a ha
  obtain ⟨b, hb, hab⟩ := h id a ha
  obtain ⟨c, hc, hbc⟩ := h' id b hb
  exact ⟨c, hc, hab.trans hbc⟩

namespace Call

/-- The store after the call. -/
def after (s : AccountStore) (call : Call) : AccountStore := (call.apply s).2

theorem sound_after (h : Sound s) (call : Call) : Sound (call.after s) := by
  unfold after
  cases happly : call.apply s with
  | mk outcome s' =>
    cases outcome with
    | error f =>
      obtain rfl := eq_of_apply_error happly
      exact h
    | ok w => exact h.of_apply happly

theorem after_create (s : AccountStore) (a : UserAccount) :
    (create a).after s = s ∨ (create a).after s = (s.add fun id => a.withId ⟨id⟩).2 := by
  show (AccountStore.create s a).2 = s ∨ (AccountStore.create s a).2 = _
  unfold AccountStore.create
  split
  · exact Or.inl rfl
  · exact Or.inr rfl

/-- A new account leaves the others as they are. -/
theorem findById_after_create (h : Sound s) (a : UserAccount) {id : UserId} {x : UserAccount}
    (hx : findById s id = some x) : findById ((create a).after s) id = some x := by
  rcases after_create s a with hsame | hadded
  · rw [hsame, hx]
  · have hissued := h.ordered.issued_of_find? hx
    rw [hadded, findById, Store.find?_add, if_neg (by omega)]
    exact hx

/-- The account may be replaced by what it becomes when it is activated, even from an older copy. -/
theorem after_update_activate (h : Sound s) {id : UserId} {a b : UserAccount}
    (hb : findById s id = some b) (hages : a.Ages b) (now : Instant) :
    (update (a.activate now)).after s = s.put id.value (b.activate now) := by
  have hid : b.id = id := h.named id.value b hb
  have hfound : findById s (b.activate now).id = some b := by
    rw [show (b.activate now).id = id from hid, hb]
  have hupdate := h.update_of_own hfound (Email.SameMailbox.refl b.email)
  rw [hages.activate]
  show (AccountStore.update s (b.activate now)).2 = _
  rw [hupdate, show (b.activate now).id = id from hid]

end Call

end AccountStore

/-! ## Which requests write accounts -/

/-- The call on the store of accounts that a request makes. -/
def Request.accountCall? : Request → Option AccountStore.Call
  | .createAccount a => some (.create a)
  | .updateAccount a => some (.update a)
  | _ => none

namespace World

theorem serve_createAccount_of_free (sv : Services) {w : World}
    (h : AccountStore.Sound w.accounts) {a : UserAccount}
    (hfree : AccountStore.findByEmail w.accounts a.email = none) :
    w.serve sv (.createAccount a) =
      (.ok (a.withId ⟨w.accounts.lastId + 1⟩),
        { w with accounts := (w.accounts.add fun id => a.withId ⟨id⟩).2 }) := by
  rw [serve, h.create_eq, if_pos hfree]
  rfl

theorem serve_createAccount_of_taken (sv : Services) {w : World}
    (h : AccountStore.Sound w.accounts) {a b : UserAccount}
    (htaken : AccountStore.findByEmail w.accounts a.email = some b) :
    w.serve sv (.createAccount a) = (.error AccountStore.emailInUse, w) := by
  rw [serve, h.create_eq, htaken, if_neg (by simp)]
  rfl

/-- Only a call on the store of accounts changes it. -/
theorem serve_accounts (sv : Services) (w : World) (r : Request) :
    (w.serve sv r).2.accounts =
      match r.accountCall? with
      | none => w.accounts
      | some call => call.after w.accounts := by
  cases r with
  | createSubscription | updateSubscription | charge | refund =>
    exact written_congr World.accounts fun _ => rfl
  | _ => rfl

end World

namespace Scene

/-- The store after a turn is the store before it, or the store after the call of the task whose
turn it is. -/
theorem step_accounts (sv : Services) (s : Scene) (turn : Turn) :
    (s.step sv turn).world.accounts = s.world.accounts ∨
      ∃ t r next call, s.tasks[turn.task]? = some t ∧ t.rest = .call r next ∧
        r.accountCall? = some call ∧
        (s.step sv turn).world.accounts = call.after s.world.accounts := by
  refine step_calls World.accounts Request.accountCall? (fun call store => call.after store)
    (fun _ _ => rfl) (fun w r => ?_) s turn
  rw [World.serve_accounts]
  cases r.accountCall? <;> rfl

/-- An account is found as it is stored. -/
theorem findAccount_of_reply {sv : Services} {w : World} {turn : Turn} {injected : Bool}
    {id : UserId} {found : Option UserAccount}
    (h : Reply sv w turn (.findAccount id) (.ok found) injected) :
    AccountStore.findById w.accounts id = found := by
  rcases reply_cases h with hserved | ⟨fault, -, hanswer⟩
  · exact (Except.ok.inj hserved).symm
  · obtain ⟨f, -, herror⟩ := Option.map_eq_some_iff.mp hanswer
    cases herror

end Scene

/-! ## On which grounds accounts are written -/

namespace UseCase

/-- A request about accounts has grounds in the arguments of a use case and its log. -/
def AccountGrounds (u : UseCase) (log : List Exchange) : Request → Prop
  | .createAccount a => a.activated = false ∧
      ∃ name email password, u = .register name email password
  | .updateAccount a => ∃ id before now, u = .activate id ∧
      Told log (.findAccount id) (.ok (some before)) ∧ before.activated = false ∧
      a = before.activate now
  | _ => True

/-- The conduct of writing accounts on these grounds only. -/
def accounts (u : UseCase) : Conduct (List Exchange) u.Outcome where
  after := fun log e => log ++ [e]
  allows := u.AccountGrounds
  ends := fun _ _ => True

end UseCase

theorem Task.Obeys.accountGrounds {t : Task} {r : Request}
    {next : r.Answer → Program t.useCase.Outcome} (h : t.Obeys UseCase.accounts [])
    (hrest : t.rest = .call r next) : t.useCase.AccountGrounds t.log r := by
  have hallows := h.allows hrest
  rwa [Task.stateBy_eq_log (fun _ _ _ => rfl)] at hallows

namespace Accounts

/-- A new account is not active. -/
theorem not_activated_of_create {name email hash : String} {now : Instant} {a : UserAccount}
    (h : UserAccount.create name email hash now = .ok a) : a.activated = false := by
  unfold UserAccount.create at h
  dsimp only at h
  split at h
  · cases h
  · split at h
    · cases h
    · split at h
      · cases h
      · cases h
        rfl

theorem grounds_of_asks {u : UseCase} {log : List Exchange} {r : Request} (h : u.Asks log r) :
    u.AccountGrounds log r := by
  cases u with
  | register name email password =>
    cases h with
    | store _ hcreate => exact ⟨not_activated_of_create hcreate, name, email, password, rfl⟩
    | _ => exact trivial
  | activate user =>
    cases h with
    | @save before hinactive now i j =>
      exact ⟨user, before, now, rfl, .head _ _ i _, hinactive, rfl⟩
    | _ => exact trivial
  -- the others write no accounts
  | _ => cases h <;> exact trivial

/-- Every use case writes accounts on grounds only. -/
theorem obeys_accounts (u : UseCase) : u.program.Obeys u.accounts [] := by
  refine u.follows.obeys (fun log r h _ => ?_) fun _ _ _ _ => trivial
  rw [Conduct.foldl_after_eq_append fun _ _ => rfl, List.nil_append]
  exact grounds_of_asks h

end Accounts

/-! ## What scenes make of accounts -/

namespace Scene

/-- Each account that a use case was told about is still there, as it was or activated. -/
def Recalls (s : AccountStore) (t : Task) : Prop :=
  ∀ id before, Told t.log (.findAccount id) (.ok (some before)) →
    ∃ a, AccountStore.findById s id = some a ∧ before.Ages a

/-- The accounts are in order, every use case writes them on grounds and recalls those it was told
about. -/
structure Accountable (s : Scene) : Prop where
  sound : AccountStore.Sound s.world.accounts
  obeys : ∀ t ∈ s.tasks, t.Obeys UseCase.accounts []
  recalls : ∀ t ∈ s.tasks, Recalls s.world.accounts t

theorem accountable_start {w : World} (hw : AccountStore.Sound w.accounts)
    (calls : List UseCase) : (start w calls).Accountable where
  sound := hw
  obeys := forall_mem_start w fun u _ => Accounts.obeys_accounts u
  recalls := by
    refine forall_mem_start w fun u _ => ?_
    rintro id before ⟨injected, hmem⟩
    simp [Task.start] at hmem

variable {s : Scene}

/-- A turn leaves an account as it is, or it is the write of an activation of its user. -/
theorem Accountable.findById_step (h : s.Accountable) (sv : Services) (turn : Turn) {id : UserId}
    {a : UserAccount} (ha : AccountStore.findById s.world.accounts id = some a) :
    AccountStore.findById (s.step sv turn).world.accounts id = some a ∨
      ∃ t now next, s.tasks[turn.task]? = some t ∧ t.useCase = .activate id ∧
        t.rest = .call (.updateAccount (a.activate now)) next ∧
        AccountStore.findById (s.step sv turn).world.accounts id = some (a.activate now) := by
  rcases s.step_accounts sv turn with hsame | ⟨t, r, next, call, htask, hrest, hcall, hafter⟩
  · exact Or.inl (by rw [hsame, ha])
  · have ht := List.mem_of_getElem? htask
    have hgrounds := (h.obeys t ht).accountGrounds hrest
    cases r with
    | createAccount x =>
      cases hcall
      rw [hafter]
      exact Or.inl (AccountStore.Call.findById_after_create h.sound x ha)
    | updateAccount x =>
      cases hcall
      obtain ⟨user, before, now, huser, htold, -, rfl⟩ := hgrounds
      obtain ⟨b, hb, hages⟩ := h.recalls t ht user before htold
      rw [hafter, AccountStore.Call.after_update_activate h.sound hb hages, AccountStore.findById,
        Store.find?_put]
      by_cases hid : id.value = user.value
      · obtain rfl : id = user := congrArg UserId.mk hid
        rw [hb] at ha
        cases ha
        -- the copy from which the account is activated may be an older one
        rw [hages.activate] at hrest
        exact Or.inr ⟨t, now, next, htask, huser, hrest, if_pos rfl⟩
      · rw [if_neg hid]
        exact Or.inl ha
    | _ => cases hcall

theorem Accountable.keeps_step (h : s.Accountable) (sv : Services) (turn : Turn) :
    AccountStore.Keeps s.world.accounts (s.step sv turn).world.accounts := by
  intro id a ha
  rcases h.findById_step sv turn ha with hsame | ⟨_, now, _, -, -, -, hactivated⟩
  · exact ⟨a, hsame, .refl a⟩
  · exact ⟨a.activate now, hactivated, Or.inr ⟨now, rfl⟩⟩

theorem Accountable.step (h : s.Accountable) (sv : Services) (turn : Turn) :
    (s.step sv turn).Accountable where
  sound := by
    rcases s.step_accounts sv turn with hsame | ⟨_, _, _, call, -, -, -, hafter⟩
    · rw [hsame]
      exact h.sound
    · rw [hafter]
      exact AccountStore.Call.sound_after h.sound call
  obeys := step_tasks h.obeys fun _ _ _ _ _ _ hrest _ hobeys => hobeys.advance hrest trivial
  recalls := by
    have hkeeps := h.keeps_step sv turn
    have hkept : ∀ t ∈ s.tasks, Recalls (s.step sv turn).world.accounts t := by
      intro t ht id before htold
      obtain ⟨a, ha, hages⟩ := h.recalls t ht id before htold
      obtain ⟨b, hb, hab⟩ := hkeeps id a ha
      exact ⟨b, hb, hages.trans hab⟩
    refine step_tasks hkept ?_
    intro t ht r next answer injected hrest hreply hrecalls id before htold
    rcases Told.of_concat htold with hearlier | ⟨injected', hlast⟩
    · exact hrecalls id before hearlier
    · cases hlast
      exact hkeeps id before (findAccount_of_reply hreply)

/-- Whatever is going on, accounts are kept. -/
theorem Accountable.run (h : s.Accountable) (sv : Services) (turns : List Turn) :
    (s.run sv turns).Accountable ∧
      AccountStore.Keeps s.world.accounts (s.run sv turns).world.accounts := by
  refine run_invariant
    (I := fun x => x.Accountable ∧ AccountStore.Keeps s.world.accounts x.world.accounts)
    ⟨h, .refl _⟩ ?_
  rintro x turn - ⟨hx, hkeeps⟩
  exact ⟨hx.step sv turn, hkeeps.trans (hx.keeps_step sv turn)⟩

/-- No account is activated that nobody activates. -/
theorem findById_run_of_inactive {w : World} (hw : AccountStore.Sound w.accounts) (sv : Services)
    {calls : List UseCase} {id : UserId} (hnobody : .activate id ∉ calls) {a : UserAccount}
    (ha : AccountStore.findById w.accounts id = some a) (turns : List Turn) :
    AccountStore.findById ((start w calls).run sv turns).world.accounts id = some a := by
  refine (run_invariant
    (I := fun s => s.tasks.map Task.useCase = calls ∧ s.Accountable ∧
      AccountStore.findById s.world.accounts id = some a)
    ⟨run_useCases sv w calls [], accountable_start hw calls, ha⟩ ?_).2.2
  rintro s turn - ⟨hcalls, hs, hsame⟩
  refine ⟨by rw [step_useCases, hcalls], hs.step sv turn, ?_⟩
  rcases hs.findById_step sv turn hsame with hstays | ⟨t, _, _, htask, hactivates, -, -⟩
  · exact hstays
  · have hmem := List.mem_map_of_mem (f := Task.useCase) (List.mem_of_getElem? htask)
    rw [hcalls, hactivates] at hmem
    exact absurd hmem hnobody

end Scene

namespace World

variable {w : World}

theorem sound_afterSession (h : AccountStore.Sound w.accounts) (sv : Services) (x : Session) :
    AccountStore.Sound (w.afterSession sv x).accounts :=
  ((Scene.accountable_start h x.useCases).run sv x.turns).1.sound

/-- In every session accounts are kept. -/
theorem keeps_afterSession (h : AccountStore.Sound w.accounts) (sv : Services) (x : Session) :
    AccountStore.Keeps w.accounts (w.afterSession sv x).accounts :=
  ((Scene.accountable_start h x.useCases).run sv x.turns).2

/-- In a session without an activation of its user an account stays as it is. -/
theorem findById_afterSession (h : AccountStore.Sound w.accounts) (sv : Services) {x : Session}
    {id : UserId} (hnobody : .activate id ∉ x.useCases) {a : UserAccount}
    (ha : AccountStore.findById w.accounts id = some a) :
    AccountStore.findById (w.afterSession sv x).accounts id = some a :=
  Scene.findById_run_of_inactive h sv hnobody ha x.turns

/-- What is carried out alone keeps accounts too. -/
theorem keeps_carryOut (h : AccountStore.Sound w.accounts) (sv : Services) (now : Instant)
    (u : UseCase) (salt : List UInt8) :
    AccountStore.Sound (w.carryOut sv now u salt).2.accounts ∧
      AccountStore.Keeps w.accounts (w.carryOut sv now u salt).2.accounts := by
  obtain ⟨x, -, hx⟩ := w.exists_session_of_carryOut sv now u salt
  rw [← hx]
  exact ⟨sound_afterSession h sv x, keeps_afterSession h sv x⟩

end World

end RecurringBilling
