import RecurringBilling.Proofs.Interleaving.Attempt
import RecurringBilling.Proofs.Interleaving.Rows

/-!
# Racing subscribers

Several attempts of one user race each other while everybody else leaves the user's
subscriptions alone.  The active rows of the user are then exactly the rows that the
attempts have stored, and there is never more than one, because the store looks
before it writes.  An attempt that was refused was refused over such a row, so if all
attempts have ended, one of them has stored a row.
-/

namespace RecurringBilling

open RecurringBilling.Calendar

namespace Task

/-- Where the attempt of a use case to subscribe stands. -/
def attempt (t : Task) : Attempt := t.stateBy Attempt.ofUseCase .pending

/-- The use case has stored a row of the user. -/
def stores (user : UserId) (t : Task) : Bool :=
  t.useCase.subscribes user && decide (t.attempt = .stored)

variable {t : Task} {user : UserId}

theorem exists_plan_of_subscribes {u : UseCase} (h : u.subscribes user = true) :
    ∃ planId, u = .subscribe user planId := by
  cases u with
  | subscribe v planId =>
    have hv : v = user := by simpa [UseCase.subscribes] using h
    exact ⟨planId, by rw [hv]⟩
  | _ => cases h

/-- An attempt that has stored its row has succeeded, and no other one has. -/
theorem succeeded_iff_attempt (h : t.Obeys Attempt.ofUseCase .pending)
    (ht : t.useCase.subscribes user = true) : t.succeeded = true ↔ t.attempt = .stored := by
  obtain ⟨planId, hu⟩ := exists_plan_of_subscribes ht
  obtain ⟨u, log, rest⟩ := t
  cases hu
  cases rest with
  | call r next =>
    -- whoever still asks has not stored its row, by its conduct
    have hallows : attempt _ ≠ .stored := h.1
    simp [succeeded, outcome?, hallows]
  | done outcome =>
    cases outcome with
    | ok value =>
      have hstored : attempt _ = .stored := h
      simp [succeeded, outcome?, hstored]
    | error e =>
      have hrefused : attempt _ = .refused := h.1
      simp [succeeded, outcome?, hrefused]

/-- An attempt that has returned without storing a row was refused, and says so. -/
theorem refused_of_isOver (h : t.Obeys Attempt.ofUseCase .pending)
    (ht : t.useCase.subscribes user = true) (hover : t.isOver = true)
    (hnot : t.attempt ≠ .stored) :
    t.attempt = .refused ∧ t.failure? = some (.alreadySubscribed user) := by
  obtain ⟨planId, hu⟩ := exists_plan_of_subscribes ht
  obtain ⟨u, log, rest⟩ := t
  cases hu
  cases rest with
  | call r next => cases hover
  | done outcome =>
    cases outcome with
    | ok value => exact absurd h hnot
    | error e =>
      obtain ⟨hrefused, he⟩ := h
      exact ⟨hrefused, congrArg some he⟩

/-- An attempt that asks has not stored its row yet. -/
theorem attempt_ne_stored {r : Request} {next : r.Answer → Program t.useCase.Outcome}
    (h : t.Obeys Attempt.ofUseCase .pending) (ht : t.useCase.subscribes user = true)
    (hrest : t.rest = .call r next) : t.attempt ≠ .stored := by
  intro hstored
  have hsucceeded := (succeeded_iff_attempt h ht).mpr hstored
  rw [succeeded, outcome?_eq_none_of_call hrest] at hsucceeded
  cases hsucceeded

theorem attempt_advance {r : Request} (next : r.Answer → Program t.useCase.Outcome)
    (answer : r.Answer) (injected : Bool) (ht : t.useCase.subscribes user = true) :
    (t.advance r next answer injected).attempt =
      t.attempt.after { request := r, answer, injected } := by
  obtain ⟨planId, hu⟩ := exists_plan_of_subscribes ht
  rw [attempt, stateBy_advance]
  obtain ⟨u, log, rest⟩ := t
  cases hu
  rfl

/-- An attempt goes on keeping to its conduct in a world that it may rely on. -/
theorem obeys_attempt_advance {r : Request} {next : r.Answer → Program t.useCase.Outcome}
    {answer : r.Answer} {injected : Bool} {planId : PlanId}
    (h : t.Obeys Attempt.ofUseCase .pending) (hu : t.useCase = .subscribe user planId)
    (hrest : t.rest = .call r next)
    (hrely : Attempt.rely planId { request := r, answer, injected }) :
    (t.advance r next answer injected).Obeys Attempt.ofUseCase .pending := by
  apply h.advance hrest
  rw [hu]
  exact hrely

end Task

namespace World

/-- A world that has the plan, accepts charges and shows a time since 1970 is one that attempts may
rely on. -/
theorem rely_serve (sv : Services) {w : World} (hdecline : w.ledger.decline = none)
    {planId : PlanId} (hplan : (PlanStore.findById w.plans planId).isSome = true)
    (hnow : w.now.isBefore .epoch = false) (r : Request) :
    Attempt.rely planId { request := r, answer := (w.serve sv r).1, injected := false } := by
  cases r with
  | clock => exact hnow
  | findPlan id =>
    intro hid
    obtain ⟨p, hp⟩ := Option.isSome_iff_exists.mp hplan
    exact ⟨p, by rw [hid, ← hp]; rfl⟩
  | findActiveSubscription v => exact ⟨_, rfl⟩
  | charge s p => exact ⟨_, congrArg Prod.fst (serve_charge_of_accepting sv hdecline s p)⟩
  | createSubscription s =>
    intro f hf
    simp only [serve, SubscriptionStore.create] at hf
    split at hf
    · exact (Except.error.inj hf).symm
    · cases hf
  | _ => exact trivial

/-- A new active row of a user without one is stored. -/
theorem serve_create_of_free (sv : Services) {w : World}
    (h : SubscriptionStore.WellFormed w.subscriptions) {c : Subscription}
    (hid : c.id = .unassigned) (hactive : c.isActive = true)
    (hfree : SubscriptionStore.activeOf w.subscriptions c.user = []) :
    w.serve sv (.createSubscription c) =
      (.ok (c.withId ⟨w.subscriptions.lastId + 1⟩),
        { w with subscriptions := (w.subscriptions.add fun id => c.withId ⟨id⟩).2 }) := by
  have hnone := SubscriptionStore.findActiveByUser_eq_none_iff.mpr hfree
  rw [serve, h.create_of_free hid hactive hnone]
  rfl

/-- A new active row of a user with one is refused. -/
theorem serve_create_of_taken (sv : Services) {w : World}
    (h : SubscriptionStore.WellFormed w.subscriptions) {c : Subscription}
    (hid : c.id = .unassigned) (hactive : c.isActive = true)
    (htaken : SubscriptionStore.activeOf w.subscriptions c.user ≠ []) :
    w.serve sv (.createSubscription c) = (.error (SubscriptionStore.secondActive c.user), w) := by
  have hcheck : SubscriptionStore.hasOtherActive w.subscriptions c = true := by
    cases hother : SubscriptionStore.hasOtherActive w.subscriptions c with
    | true => rfl
    | false => exact absurd ((h.hasOtherActive_of_unassigned hid hactive).mp hother) htaken
  simp only [serve, SubscriptionStore.create, hcheck]
  rfl

/-- A row that the look-up finds is an active row of the user. -/
theorem activeOf_ne_nil_of_found (sv : Services) {w : World} {user : UserId} {x : Subscription}
    (h : (w.serve sv (.findActiveSubscription user)).1 = .ok (some x)) :
    SubscriptionStore.activeOf w.subscriptions user ≠ [] := by
  have hfound : (if w.blind then none
      else SubscriptionStore.findActiveByUser w.subscriptions user) = some x := Except.ok.inj h
  split at hfound
  · cases hfound
  · intro hnil
    rw [SubscriptionStore.findActiveByUser_eq_none_iff.mpr hnil] at hfound
    cases hfound

end World

/-- Exchanging one task exchanges what it counts for. -/
theorem countP_set_task {tasks : List Task} {i : Nat} {t : Task} (htask : tasks[i]? = some t)
    (p : Task → Bool) (t' : Task) :
    (tasks.set i t').countP p + (p t).toNat = tasks.countP p + (p t').toNat := by
  induction tasks generalizing i with
  | nil => simp at htask
  | cons head tail ih =>
    cases i with
    | zero =>
      have hhead : head = t := by simpa using htask
      subst hhead
      rw [List.set_cons_zero, List.countP_cons, List.countP_cons]
      -- whether the first task counted and whether the new one does
      cases p head <;> cases p t' <;> simp
    | succ i =>
      have htail : tail[i]? = some t := by simpa using htask
      have := ih htail
      rw [List.set_cons_succ, List.countP_cons, List.countP_cons]
      omega

namespace Scene

open SubscriptionStore (activeOf)

/-- The use cases that are no attempts of the user have not come across a row of the user. -/
def LeftTo (user : UserId) (s : Scene) : Prop :=
  ∀ t ∈ s.tasks, t.useCase.subscribes user = false → ∀ id x,
    Told t.log (.findSubscription id) (.ok (some x)) → x.user ≠ user

/-- The attempts of a user keep to their conduct, their plans exist and charges are accepted; the
active rows of the user are those that the attempts have stored, at most one, and no
attempt was refused without there being one. -/
structure Raced (user : UserId) (s : Scene) : Prop where
  tended : s.Tended
  accepting : s.world.ledger.decline = none
  plans : ∀ t ∈ s.tasks, ∀ planId, t.useCase = .subscribe user planId →
    (PlanStore.findById s.world.plans planId).isSome = true
  obeys : ∀ t ∈ s.tasks, t.useCase.subscribes user = true → t.Obeys Attempt.ofUseCase .pending
  rows : (activeOf s.world.subscriptions user).length = s.tasks.countP (Task.stores user)
  atMostOne : (activeOf s.world.subscriptions user).length ≤ 1
  refused : ∀ t ∈ s.tasks, t.useCase.subscribes user = true → t.attempt = .refused →
    1 ≤ (activeOf s.world.subscriptions user).length

variable {user : UserId} {s : Scene}

/-- One task and the rows of the user change together. -/
theorem Raced.replace (h : s.Raced user) {i : Nat} {t t' : Task} {w : World}
    (htask : s.tasks[i]? = some t) (hu : t'.useCase = t.useCase)
    (htended : Tended { world := w, tasks := s.tasks.set i t' })
    (haccepting : w.ledger.decline = none) (hplans : w.plans = s.world.plans)
    (hobeys : t'.useCase.subscribes user = true → t'.Obeys Attempt.ofUseCase .pending)
    (hrows : (activeOf w.subscriptions user).length + (t.stores user).toNat =
      (activeOf s.world.subscriptions user).length + (t'.stores user).toNat)
    (hatMostOne : (activeOf w.subscriptions user).length ≤ 1)
    (hgrow : (activeOf s.world.subscriptions user).length ≤ (activeOf w.subscriptions user).length)
    (hrefused : t'.useCase.subscribes user = true → t'.attempt = .refused →
      1 ≤ (activeOf w.subscriptions user).length) :
    Raced user { world := w, tasks := s.tasks.set i t' } where
  tended := htended
  accepting := haccepting
  plans := by
    rw [hplans]
    refine forall_mem_set h.plans fun planId hplan => ?_
    exact h.plans t (List.mem_of_getElem? htask) planId (hu ▸ hplan)
  obeys := forall_mem_set h.obeys hobeys
  rows := by
    -- rows and storing attempts grow by the same number
    have hcount := countP_set_task htask (Task.stores user) t'
    have hbefore := h.rows
    show (activeOf w.subscriptions user).length = (s.tasks.set i t').countP (Task.stores user)
    omega
  atMostOne := hatMostOne
  refused := by
    refine forall_mem_set (fun x hx hxuser hxrefused => ?_) hrefused
    exact Nat.le_trans (h.refused x hx hxuser hxrefused) hgrow

section Served

variable {turn : Turn} {t : Task} {r : Request} {next : r.Answer → Program t.useCase.Outcome}

/-- Whoever is no attempt of the user and has not come across a row of the user leaves the user's
active rows alone. -/
theorem Tended.activeOf_of_other (h : s.Tended) (sv : Services) (ht : t ∈ s.tasks)
    (hrest : t.rest = .call r next) (hother : t.useCase.subscribes user = false)
    (hleft : ∀ id x, Told t.log (.findSubscription id) (.ok (some x)) → x.user ≠ user) :
    activeOf ((s.world.facing turn).serve sv r).2.subscriptions user =
      activeOf s.world.subscriptions user := by
  rw [World.serve_subscriptions]
  cases r with
  | createSubscription c =>
    have hgrounds := (h.grounded t ht).obeys.grounds hrest
    -- an attempt for the user would be one of the user's own
    have huser : c.user ≠ user := by
      intro heq
      rw [hgrounds.2.2, UseCase.subscribes, heq, beq_self_eq_true] at hother
      cases hother
    show activeOf ((SubscriptionStore.Call.create c).after s.world.subscriptions) user = _
    rcases SubscriptionStore.Call.after_cases s.world.subscriptions (.create c) with
      hsame | hunchecked
    · rw [hsame]
    · rw [hunchecked, SubscriptionStore.Call.unchecked, h.wellFormed.activeOf_add]
      simp [huser]
  | updateSubscription c =>
    obtain ⟨-, before, x, htold, hx, huser, hxuser⟩ := h.row_of_update ht hrest
    have hne : before.user ≠ user := hleft c.id before htold
    show activeOf ((SubscriptionStore.Call.update c).after s.world.subscriptions) user = _
    rcases SubscriptionStore.Call.after_cases s.world.subscriptions (.update c) with
      hsame | hunchecked
    · rw [hsame]
    · rw [hunchecked, SubscriptionStore.Call.unchecked_update (by rw [Store.contains, hx]; rfl)]
      exact h.wellFormed.activeOf_put_of_ne hx (hxuser ▸ hne) (huser ▸ hne)
  | _ => rfl

/-- The turn of an attempt that leaves the rows alone, and is refused only over a row. -/
theorem Raced.replace_quiet (h : s.Raced user) {i : Nat} {t' : Task} {w : World}
    (htask : s.tasks[i]? = some t) (hu : t'.useCase = t.useCase)
    (htended : Tended { world := w, tasks := s.tasks.set i t' })
    (haccepting : w.ledger.decline = none) (hplans : w.plans = s.world.plans)
    (hobeys : t'.useCase.subscribes user = true → t'.Obeys Attempt.ofUseCase .pending)
    (hactive : activeOf w.subscriptions user = activeOf s.world.subscriptions user)
    (hattempt : t'.useCase.subscribes user = true → t'.attempt = t.attempt ∨
      t.attempt ≠ .stored ∧ t'.attempt = .refused ∧ activeOf s.world.subscriptions user ≠ []) :
    Raced user { world := w, tasks := s.tasks.set i t' } := by
  have hstores : t'.stores user = t.stores user := by
    rw [Task.stores, Task.stores, ← hu]
    cases hmine : t'.useCase.subscribes user with
    | false => rfl
    | true =>
      rcases hattempt hmine with hsame | ⟨hnot, hrefused, -⟩
      · rw [hsame]
      · simp [hnot, hrefused]
  refine h.replace htask hu htended haccepting hplans hobeys ?_ ?_ ?_ ?_
  · rw [hactive, hstores]
  · rw [hactive]
    exact h.atMostOne
  · exact Nat.le_of_eq (congrArg List.length hactive).symm
  · intro hmine hrefused
    rw [hactive]
    rcases hattempt hmine with hsame | ⟨-, -, hne⟩
    · exact h.refused t (List.mem_of_getElem? htask) (hu ▸ hmine) (hsame ▸ hrefused)
    · exact List.length_pos_iff.mpr hne

/-- An attempt stores its row if the user has no active one, and is refused otherwise. -/
theorem Raced.served_create (h : s.Raced user) (sv : Services) {c : Subscription}
    {next : (Request.createSubscription c).Answer → Program t.useCase.Outcome}
    (htask : s.tasks[turn.task]? = some t) (hrest : t.rest = .call (.createSubscription c) next)
    (hmine : t.useCase.subscribes user = true)
    (htended : (s.served sv turn t (.createSubscription c) next).Tended)
    (hobeys : (t.advance _ next ((s.world.facing turn).serve sv (.createSubscription c)).1
      false).Obeys Attempt.ofUseCase .pending) :
    (s.served sv turn t (.createSubscription c) next).Raced user := by
  have ht : t ∈ s.tasks := List.mem_of_getElem? htask
  obtain ⟨hid, hactive, hu⟩ := (h.tended.grounded t ht).obeys.grounds hrest
  have huser : c.user = user := by
    rw [hu] at hmine
    simpa [UseCase.subscribes] using hmine
  have hnot : t.attempt ≠ .stored := Task.attempt_ne_stored (h.obeys t ht hmine) hmine hrest
  -- the store decides now, whatever the look-up had found
  by_cases hfree : activeOf s.world.subscriptions user = []
  · have hserve := World.serve_create_of_free sv (w := s.world.facing turn) h.tended.wellFormed
      hid hactive (by rw [huser]; exact hfree)
    have hrows : activeOf ((s.world.facing turn).serve sv (.createSubscription c)).2.subscriptions
        user = [c.withId ⟨s.world.subscriptions.lastId + 1⟩] := by
      rw [hserve]
      show activeOf (s.world.subscriptions.add fun id => c.withId ⟨id⟩).2 user = _
      rw [h.tended.wellFormed.activeOf_add, hfree]
      simp [huser, hactive]
    have hattempt : (t.advance _ next ((s.world.facing turn).serve sv (.createSubscription c)).1
        false).attempt = .stored := by
      rw [Task.attempt_advance _ _ _ hmine, hserve]
      rfl
    refine h.replace htask rfl htended ?_ ?_ (fun _ => hobeys) ?_ ?_ ?_ ?_
    · rw [World.serve_decline]
      exact h.accepting
    · exact World.serve_plans sv _ rfl
    · rw [hrows, hfree, Task.stores, Task.stores, hattempt, Task.advance_useCase, hmine]
      simp [hnot]
    · rw [hrows]
      exact Nat.le_refl 1
    · rw [hrows, hfree]
      exact Nat.zero_le 1
    · intro _ hrefused
      rw [hattempt] at hrefused
      cases hrefused
  · have hserve := World.serve_create_of_taken sv (w := s.world.facing turn) h.tended.wellFormed
      hid hactive (by rw [huser]; exact hfree)
    refine h.replace_quiet htask rfl htended ?_ ?_ (fun _ => hobeys) ?_ ?_
    · rw [World.serve_decline]
      exact h.accepting
    · exact World.serve_plans sv _ rfl
    · rw [hserve]
      rfl
    · intro _
      refine Or.inr ⟨hnot, ?_, hfree⟩
      rw [Task.attempt_advance _ _ _ hmine, hserve]
      rfl

/-- Whoever is no attempt of the user neither stores nor is refused for the user. -/
theorem Raced.served_other (h : s.Raced user) (sv : Services)
    (htask : s.tasks[turn.task]? = some t) (hrest : t.rest = .call r next)
    (hother : t.useCase.subscribes user = false) (htended : (s.served sv turn t r next).Tended)
    (haccepting : ((s.world.facing turn).serve sv r).2.ledger.decline = none)
    (hplans : ((s.world.facing turn).serve sv r).2.plans = s.world.plans)
    (hleft : ∀ id x, Told t.log (.findSubscription id) (.ok (some x)) → x.user ≠ user) :
    (s.served sv turn t r next).Raced user := by
  have hnone : ∀ {P : Prop}, (t.advance r next ((s.world.facing turn).serve sv r).1
      false).useCase.subscribes user = true → P := by
    intro P hmine
    rw [Task.advance_useCase, hother] at hmine
    cases hmine
  exact h.replace_quiet htask rfl htended haccepting hplans hnone
    (h.tended.activeOf_of_other sv (List.mem_of_getElem? htask) hrest hother hleft) hnone

/-- An attempt is refused at the look-up only over a row that is there. -/
theorem Raced.served_find (h : s.Raced user) (sv : Services)
    {next : (Request.findActiveSubscription user).Answer → Program t.useCase.Outcome}
    (htask : s.tasks[turn.task]? = some t)
    (hrest : t.rest = .call (.findActiveSubscription user) next)
    (hmine : t.useCase.subscribes user = true)
    (htended : (s.served sv turn t (.findActiveSubscription user) next).Tended)
    (hobeys : (t.advance _ next ((s.world.facing turn).serve sv (.findActiveSubscription user)).1
      false).Obeys Attempt.ofUseCase .pending) :
    (s.served sv turn t (.findActiveSubscription user) next).Raced user := by
  refine h.replace_quiet htask rfl htended h.accepting rfl (fun _ => hobeys) rfl fun _ => ?_
  rw [Task.attempt_advance _ _ _ hmine]
  cases hanswer : ((s.world.facing turn).serve sv (.findActiveSubscription user)).1 with
  | error f => exact Or.inl rfl
  | ok found =>
    cases found with
    | none => exact Or.inl rfl
    | some x =>
      have hnot := Task.attempt_ne_stored (h.obeys t (List.mem_of_getElem? htask) hmine) hmine hrest
      exact Or.inr ⟨hnot, rfl, World.activeOf_ne_nil_of_found sv hanswer⟩

theorem Raced.served (h : s.Raced user) (sv : Services) (htask : s.tasks[turn.task]? = some t)
    (hrest : t.rest = .call r next) (hnow : turn.now.isBefore .epoch = false)
    (htended : (s.served sv turn t r next).Tended)
    (hleft : t.useCase.subscribes user = false →
      ∀ id x, Told t.log (.findSubscription id) (.ok (some x)) → x.user ≠ user) :
    (s.served sv turn t r next).Raced user := by
  have ht : t ∈ s.tasks := List.mem_of_getElem? htask
  have hgrounds := (h.tended.grounded t ht).obeys.grounds hrest
  have haccepting : ((s.world.facing turn).serve sv r).2.ledger.decline = none := by
    rw [World.serve_decline]
    exact h.accepting
  have hplans := (h.tended.grounded t ht).serve_plans hrest sv (s.world.facing turn)
  cases hmine : t.useCase.subscribes user with
  | false => exact h.served_other sv htask hrest hmine htended haccepting hplans (hleft hmine)
  | true =>
    obtain ⟨planId, hu⟩ := Task.exists_plan_of_subscribes hmine
    have hrely := World.rely_serve sv (w := s.world.facing turn) h.accepting
      (h.plans t ht planId hu) hnow r
    have hobeys := Task.obeys_attempt_advance (h.obeys t ht hmine) hu hrest hrely
    cases r with
    | createSubscription c => exact h.served_create sv htask hrest hmine htended hobeys
    | updateSubscription c =>
      -- an attempt is about no stored subscription
      obtain ⟨id, before, htarget, -⟩ := hgrounds
      rw [hu] at htarget
      cases htarget
    | findActiveSubscription v =>
      have hv : user = v := by
        have hgrounds' : t.useCase.subscribes v = true := hgrounds
        rw [hu] at hgrounds'
        simpa [UseCase.subscribes] using hgrounds'
      subst hv
      exact h.served_find sv htask hrest hmine htended hobeys
    | _ =>
      refine h.replace_quiet htask rfl htended haccepting hplans (fun _ => hobeys) ?_ fun _ => ?_
      · rw [World.serve_subscriptions]
        rfl
      · rw [Task.attempt_advance _ _ _ hmine]
        exact Or.inl rfl

end Served

end Scene

end RecurringBilling
