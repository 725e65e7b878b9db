import RecurringBilling.Proofs.Identity.Accounts
import RecurringBilling.Proofs.Interleaving.Runs

/-!
# Accounts only ever become active

An account starts out inactive.  From then on nothing happens to it but that activations of its
user write it back as active, and although each of them writes a copy that it has loaded earlier,
no write undoes another one.  An activation that loads an active account is done at once.
-/

namespace RecurringBilling

open RecurringBilling.Calendar

/-! ## Accounts that go on -/

namespace UserAccount

/-- The later account is that of the same person, and active if the earlier one is. -/
structure Persists (a b : UserAccount) : Prop where
  id : b.id = a.id
  name : b.name = a.name
  email : b.email = a.email
  passwordHash : b.passwordHash = a.passwordHash
  createdAt : b.createdAt = a.createdAt
  activated : a.activated = true → b.activated = true

theorem Ages.persists {a b : UserAccount} (h : a.Ages b) : a.Persists b := by
  rcases h with rfl | ⟨now, rfl⟩
  · exact ⟨rfl, rfl, rfl, rfl, rfl, fun ha => ha⟩
  · exact ⟨rfl, rfl, rfl, rfl, rfl, fun _ => rfl⟩

end UserAccount

/-! ## What an activation goes through -/

/-- The account of a user that the exchange has shown. -/
def Exchange.shown? (id : UserId) : Exchange → Option UserAccount
  | { request := .findAccount user, answer := .ok found, injected := _ } =>
    if user = id then found else none
  | _ => none

theorem Told.of_shown? {log : List Exchange} {id : UserId} {a : UserAccount}
    (h : log.findSome? (Exchange.shown? id) = some a) :
    Told log (.findAccount id) (.ok (some a)) := by
  obtain ⟨e, hmem, hshown⟩ := List.exists_of_findSome?_eq_some h
  unfold Exchange.shown? at hshown
  split at hshown
  · next user found injected =>
    obtain ⟨rfl, rfl⟩ := Option.ite_none_right_eq_some.mp hshown
    exact ⟨injected, hmem⟩
  · cases hshown

namespace Program

variable {log : List Exchange} {outcome : Except IdentityError Activated}

/-- Storing an account as active takes a look at the clock and one write. -/
theorem runs_activate_store {before : UserAccount} (h : (Activate.store before).Runs log outcome) :
    ∃ now, log.map Exchange.request = [.clock, .updateAccount (before.activate now)] := by
  cases h with
  | call now _ hrest =>
    refine ⟨now, ?_⟩
    cases hrest with
    | call answer _ hdone =>
      cases answer <;> cases hdone <;> rfl

/-- Whoever finds the account active has asked for nothing else, and is done. -/
theorem runs_activate_of_active {user : UserId} (hruns : (activate user).Runs log outcome)
    {account : UserAccount} (htold : Told log (.findAccount user) (.ok (some account)))
    (hactive : account.activated = true) :
    log.map Exchange.request = [.findAccount user] ∧
      outcome = .ok { account, changed := false } := by
  obtain ⟨injected, hmem⟩ := htold
  unfold activate at hruns
  split at hruns
  · cases hruns
    cases hmem
  · cases hruns with
    | call answer _ hrest =>
      rcases answer with f | _ | found
      · cases hrest
        cases List.mem_singleton.mp hmem
      · cases hrest
        cases List.mem_singleton.mp hmem
      · cases hfound : found.activated with
        | true =>
          simp only [hfound, if_true] at hrest
          cases hrest
          cases List.mem_singleton.mp hmem
          exact ⟨rfl, rfl⟩
        | false =>
          -- the account is looked up once only, and then it was not active
          simp only [hfound, Bool.false_eq_true, if_false] at hrest
          obtain ⟨now, hlater⟩ := runs_activate_store hrest
          rcases List.mem_cons.mp hmem with heq | hmem
          · cases heq
            rw [hfound] at hactive
            cases hactive
          · have hrequest := List.mem_map_of_mem (f := Exchange.request) hmem
            simp [hlater] at hrequest

end Program

/-! ## Turns -/

namespace Scene

open AccountStore (findById)

variable {s : Scene}

/-- What is there after a turn and was not there before it, a registration has stored, and it is
not active. -/
theorem Accountable.not_activated_of_new (h : s.Accountable) (sv : Services) (turn : Turn)
    {id : UserId} {b : UserAccount} (hnew : findById s.world.accounts id = none)
    (hb : findById (s.step sv turn).world.accounts id = some b) : b.activated = false := by
  rcases s.step_accounts sv turn with hsame | ⟨t, r, next, call, htask, hrest, hcall, hafter⟩
  · rw [hsame, hnew] at hb
    cases hb
  · have ht := List.mem_of_getElem? htask
    have hgrounds := (h.obeys t ht).accountGrounds hrest
    rw [hafter] at hb
    cases r with
    | createAccount x =>
      cases hcall
      rcases AccountStore.Call.after_create s.world.accounts x with hrefused | hadded
      · rw [hrefused, hnew] at hb
        cases hb
      · rw [hadded, findById, Store.find?_add] at hb
        split at hb
        · cases hb
          exact hgrounds.1
        · exact absurd (hb.symm.trans hnew) (Option.some_ne_none b)
    | updateAccount x =>
      cases hcall
      obtain ⟨user, before, now, -, htold, -, rfl⟩ := hgrounds
      obtain ⟨a, ha, hages⟩ := h.recalls t ht user before htold
      rw [AccountStore.Call.after_update_activate h.sound ha hages, findById,
        Store.find?_put] at hb
      split at hb
      · next hid =>
        -- an activation writes only what it has found
        obtain rfl : id = user := congrArg UserId.mk hid
        rw [hnew] at ha
        cases ha
      · exact absurd (hb.symm.trans hnew) (Option.some_ne_none b)
    | _ => cases hcall

/-- Each turn of a use case that has asked no more than for an account leaves the accounts as they
are. -/
theorem step_accounts_of_lookUp (sv : Services) {turn : Turn} {later : List Turn} {id : UserId}
    {t : Task} (ht : ((s.step sv turn).run sv later).tasks[turn.task]? = some t)
    (hlog : t.log.map Exchange.request = [.findAccount id]) :
    (s.step sv turn).world.accounts = s.world.accounts := by
  rcases s.step_accounts sv turn with hsame | ⟨t₀, r, next, call, htask, hrest, hcall, -⟩
  · exact hsame
  · exfalso
    rcases s.step_task sv turn htask with
      ⟨-, hover⟩ | ⟨-, r', next', answer, injected, hrest', hstep⟩
    · have hnone := Task.outcome?_eq_none_of_call hrest
      have hsome := hover rfl
      rw [Task.isOver, hnone] at hsome
      cases hsome
    · -- what is asked in this turn is in the log from now on
      obtain ⟨t', ht', -, hprefix⟩ := log_run sv hstep later
      obtain rfl : t = t' := Option.some.inj (ht.symm.trans ht')
      have hmem := hprefix.subset (List.mem_append_right _ (List.mem_singleton.mpr rfl))
      have hrequest := List.mem_map_of_mem (f := Exchange.request) hmem
      rw [hlog, List.mem_singleton] at hrequest
      rw [hrest] at hrest'
      cases hrest'
      obtain rfl : r = .findAccount id := hrequest
      cases hcall

/-- An activation that has been shown an active account has returned, and nothing but the look-up
was asked in its name. -/
theorem returned_of_active {t : Task} (ht : t.OnTrack) {id : UserId}
    (hu : t.useCase = .activate id) {a : UserAccount}
    (htold : Told t.log (.findAccount id) (.ok (some a))) (hactive : a.activated = true) :
    t.log.map Exchange.request = [.findAccount id] ∧
      t.Returned (.activate id) (.ok { account := a, changed := false }) := by
  obtain ⟨later, outcome, hruns, hrest⟩ := ht.exists_runs
  obtain ⟨u, log, rest⟩ := t
  cases hu
  dsimp only at hruns htold hrest ⊢
  obtain ⟨hlog, rfl⟩ := Program.runs_activate_of_active hruns (htold.append later) hactive
  obtain ⟨injected, hmem⟩ := htold
  have hpositive := List.length_pos_of_mem hmem
  have hlength := congrArg List.length hlog
  rw [List.length_map, List.length_append, List.length_singleton] at hlength
  -- the one exchange of the run is in the log already, so nothing is left
  obtain rfl : later = [] := List.length_eq_zero_iff.mp (by omega)
  rw [List.append_nil] at hlog
  refine ⟨hlog, log, ?_⟩
  cases hrest
  rfl

/-- Accounts never go away, and nothing about them changes but that they become active; they start
out inactive, and become active in the write of an activation of their user only.  An activation
that is shown an active account says so and leaves all accounts as they are.  This holds however
use cases are interleaved, and whatever fails. -/
theorem accounts_only_become_active (sv : Services) (w : World) (hempty : w.accounts = {})
    (calls : List UseCase) (turns : List Turn) :
    let s := (start w calls).run sv turns
    (∀ later id a, findById s.world.accounts id = some a →
      ∃ b, findById (s.run sv later).world.accounts id = some b ∧ a.Persists b) ∧
    (∀ turn id b, findById (s.step sv turn).world.accounts id = some b →
      (findById s.world.accounts id = none ∧ b.activated = false) ∨
      findById s.world.accounts id = some b ∨
      ∃ a t now next, findById s.world.accounts id = some a ∧
        s.tasks[turn.task]? = some t ∧ t.useCase = .activate id ∧
        t.rest = .call (.updateAccount b) next ∧ b = a.activate now) ∧
    ∀ i t id a, s.tasks[i]? = some t → t.useCase = .activate id →
      Told t.log (.findAccount id) (.ok (some a)) → a.activated = true →
      t.Returned (.activate id) (.ok { account := a, changed := false }) ∧
      ∀ earlier turn later, turns = earlier ++ turn :: later → turn.task = i →
        (((start w calls).run sv earlier).step sv turn).world.accounts =
          ((start w calls).run sv earlier).world.accounts := by
  intro s
  have hsound : AccountStore.Sound w.accounts := hempty ▸ AccountStore.sound_empty
  have hs : s.Accountable := ((accountable_start hsound calls).run sv turns).1
  refine ⟨fun later id a ha => ?_, fun turn id b hb => ?_, fun i t id a ht hu htold hactive => ?_⟩
  · obtain ⟨b, hb, hages⟩ := (hs.run sv later).2 id a ha
    exact ⟨b, hb, hages.persists⟩
  · cases ha : findById s.world.accounts id with
    | none => exact Or.inl ⟨rfl, hs.not_activated_of_new sv turn ha hb⟩
    | some a =>
      rcases hs.findById_step sv turn ha with hsame | ⟨t, now, next, htask, hu, hrest, hafter⟩
      · exact Or.inr (Or.inl (hsame.symm.trans hb))
      · obtain rfl : a.activate now = b := Option.some.inj (hafter.symm.trans hb)
        exact Or.inr (Or.inr ⟨a, t, now, next, rfl, htask, hu, hrest, rfl⟩)
  · have htrack := onTrack_run sv w calls turns t (List.mem_of_getElem? ht)
    obtain ⟨hlog, hreturned⟩ := returned_of_active htrack hu htold hactive
    refine ⟨hreturned, fun earlier turn later hturns hi => ?_⟩
    subst hi hturns
    have hsplit : s = ((((start w calls).run sv earlier).step sv turn).run sv later) :=
      run_append sv _ earlier (turn :: later)
    rw [hsplit] at ht
    exact step_accounts_of_lookUp sv ht hlog

/-- Ada registers and is activated twice, and the second time changes nothing. -/
theorem ada_is_activated_once :
    let calls : List UseCase :=
      [.register "Ada" "ada@example.com" "Passw0rd!", .activate ⟨1⟩, .activate ⟨1⟩]
    let registered :=
      (start { now := .epoch } calls).run Services.lenient (Turn.inOrder .epoch [0, 0, 0, 0])
    let s := registered.run Services.lenient (Turn.inOrder .epoch [1, 1, 1, 2])
    (∃ a b, findById registered.world.accounts ⟨1⟩ = some a ∧ a.activated = false ∧
      findById s.world.accounts ⟨1⟩ = some b ∧ a.Persists b ∧ b.activated = true) ∧
    ∃ t a, s.tasks[2]? = some t ∧
      t.Returned (.activate ⟨1⟩) (.ok { account := a, changed := false }) := by
  intro calls registered s
  have hbefore : (findById registered.world.accounts ⟨1⟩).map UserAccount.activated =
      some false := by decide +kernel
  have hafter : (findById s.world.accounts ⟨1⟩).map UserAccount.activated = some true := by
    decide +kernel
  have hthird : ∃ t ∈ s.tasks[2]?, t.useCase = .activate ⟨1⟩ ∧
      (t.log.findSome? (Exchange.shown? ⟨1⟩)).map UserAccount.activated = some true := by
    decide +kernel
  have hlaw := accounts_only_become_active Services.lenient { now := .epoch } rfl calls
  have hkept : ∀ id a, findById registered.world.accounts id = some a →
      ∃ b, findById s.world.accounts id = some b ∧ a.Persists b := by
    simpa only [registered, s] using (hlaw (Turn.inOrder .epoch [0, 0, 0, 0])).1
      (Turn.inOrder .epoch [1, 1, 1, 2])
  have hreturned : ∀ t ∈ s.tasks[2]?, ∀ id a, t.useCase = .activate id →
      Told t.log (.findAccount id) (.ok (some a)) → a.activated = true →
      t.Returned (.activate id) (.ok { account := a, changed := false }) := by
    simp only [s, registered, ← run_append]
    exact fun t ht id a hu htold hactive => ((hlaw _).2.2 2 t id a ht hu htold hactive).1
  -- from here on it does not matter how the scenes have come about
  clear_value s registered
  obtain ⟨a, ha, hinactive⟩ := Option.map_eq_some_iff.mp hbefore
  obtain ⟨b, hb, hpersists⟩ := hkept ⟨1⟩ a ha
  rw [hb, Option.map_some, Option.some_inj] at hafter
  obtain ⟨t, ht, hu, hshown⟩ := hthird
  obtain ⟨c, hc, hactive⟩ := Option.map_eq_some_iff.mp hshown
  exact ⟨⟨a, b, ha, hinactive, hb, hpersists, hafter⟩,
    t, c, ht, hreturned t ht ⟨1⟩ c hu (.of_shown? hc) hactive⟩

end Scene

end RecurringBilling
