import RecurringBilling.Proofs.Interleaving.Deeds
import RecurringBilling.Proofs.Interleaving.Rows

/-!
# Failed calls

Nothing that is stored changes as long as nobody has written, and a use case that ends in
an error has not written.  The one exception is a renewal whose charge was declined: it
marks its subscription past due before it reports the decline.  A use case that runs alone
finds its subscription as it was at the start, so the mark is all that it changes.
-/

namespace RecurringBilling

open RecurringBilling.Calendar

/-! ## Stores that nobody writes -/

/-- All that is stored. -/
def World.stores (w : World) : PlanStore × SubscriptionStore × AccountStore :=
  (w.plans, w.subscriptions, w.accounts)

namespace World

theorem stores_eq_iff {w : World} {plans : PlanStore} {subscriptions : SubscriptionStore}
    {accounts : AccountStore} :
    w.stores = (plans, subscriptions, accounts) ↔
      w.plans = plans ∧ w.subscriptions = subscriptions ∧ w.accounts = accounts := by
  simp [stores]

/-- A call that leaves its store alone where it fails leaves the world alone there. -/
theorem written_of_ne_ok {α σ : Type} {w : World} {call : Except Failure α × σ} {st : σ}
    {keep : σ → World} (hrefused : ∀ f st', call = (.error f, st') → st' = st)
    (hkeep : keep st = w) (h : ∀ a, call.1 ≠ .ok a) : (written call keep).2 = w := by
  obtain ⟨outcome, st'⟩ := call
  cases outcome with
  | error f =>
    obtain rfl := hrefused f st' rfl
    exact hkeep
  | ok a => exact absurd rfl (h a)

/-- A request that is not answered as a write leaves everything that is stored alone. -/
theorem serve_stores (sv : Services) (w : World) {r : Request} {injected : Bool}
    (h : Exchange.isWrite { request := r, answer := (w.serve sv r).1, injected } = false) :
    (w.serve sv r).2.stores = w.stores := by
  cases r with
  | createPlan plan => cases h
  | createSubscription s =>
    refine congrArg stores
      (written_of_ne_ok (fun _ _ => SubscriptionStore.eq_of_create_error) rfl fun a ha => ?_)
    rw [show (w.serve sv (.createSubscription s)).1 = .ok a from ha] at h
    cases h
  | createAccount a =>
    refine congrArg stores
      (written_of_ne_ok (fun _ _ => AccountStore.eq_of_create_error) rfl fun b hb => ?_)
    rw [show (w.serve sv (.createAccount a)).1 = .ok b from hb] at h
    cases h
  | updateSubscription s =>
    refine congrArg stores
      (written_of_ne_ok (fun _ _ => SubscriptionStore.eq_of_update_error) rfl fun a ha => ?_)
    rw [show (w.serve sv (.updateSubscription s)).1 = .ok a from ha] at h
    cases h
  | updateAccount a =>
    refine congrArg stores
      (written_of_ne_ok (fun _ _ => AccountStore.eq_of_update_error) rfl fun b hb => ?_)
    rw [show (w.serve sv (.updateAccount a)).1 = .ok b from hb] at h
    cases h
  | charge | refund => exact written_congr (w := w) World.stores fun _ => rfl
  | _ => rfl

end World

namespace Scene

theorem forall_mem_of_set {P : Task → Prop} {tasks : List Task} {i : Nat} {t t' : Task}
    (htask : tasks[i]? = some t) (hset : ∀ x ∈ tasks.set i t', P x) (ht : P t' → P t) :
    ∀ x ∈ tasks, P x := by
  intro x hx
  obtain ⟨j, hj⟩ := List.getElem?_of_mem hx
  obtain ⟨hlt, -⟩ := List.getElem?_eq_some_iff.mp htask
  by_cases hij : i = j
  · rw [← hij, htask] at hj
    cases hj
    exact ht (hset t' (List.mem_set hlt t'))
  · refine hset x (List.mem_of_getElem? (i := j) ?_)
    rw [List.getElem?_set_ne hij, hj]

/-- As long as nobody has written, everything is stored as in the given world. -/
def Untouched (w : World) (s : Scene) : Prop :=
  (∀ t ∈ s.tasks, t.deeds.written = false) → s.world.stores = w.stores

theorem Untouched.step {w : World} {s : Scene} (h : s.Untouched w) (sv : Services) (turn : Turn) :
    (s.step sv turn).Untouched w := by
  intro hunwritten
  rcases s.step_cases sv turn with hidle | ⟨t, r, next, htask, -, hserved | hstruck⟩
  · rw [hidle] at hunwritten ⊢
    exact h hunwritten
  · rw [hserved] at hunwritten ⊢
    obtain ⟨hlt, -⟩ := List.getElem?_eq_some_iff.mp htask
    have hnew := Task.unwritten_of_advance (hunwritten _ (List.mem_set hlt _))
    have hold := forall_mem_of_set htask hunwritten fun _ => hnew.1
    exact (World.serve_stores sv (s.world.facing turn) hnew.2).trans (h hold)
  · obtain ⟨fault, answer, -, -, hstep⟩ := hstruck
    rw [hstep] at hunwritten ⊢
    exact h (forall_mem_of_set htask hunwritten fun hnew => (Task.unwritten_of_advance hnew).1)

/-! ## A use case alone -/

/-- The one use case under way has found its subscription as it is in the given world, and if it
has written it, nothing else is stored otherwise. -/
structure Alone (w : World) (s : Scene) : Prop where
  untouched : s.Untouched w
  obeys : ∀ t ∈ s.tasks, t.Obeys UseCase.writesOnce {}
  alone : s.tasks.length = 1
  loaded : ∀ t ∈ s.tasks, ∀ before, t.deeds.loaded = some before →
    ∃ id, t.useCase.target? = some id ∧ SubscriptionStore.findById w.subscriptions id = some before
  replaced : ∀ t ∈ s.tasks, t.deeds.written = true → ∀ id, t.useCase.target? = some id →
    ∃ before after, t.deeds.loaded = some before ∧
      t.useCase.Replaces t.deeds.declined before after ∧
      s.world.stores = (w.plans, w.subscriptions.put after.id.value after, w.accounts)

theorem alone_start (w : World) (u : UseCase) : (start w [u]).Alone w where
  untouched := fun _ => rfl
  obeys := obeys_writesOnce_start w [u]
  alone := rfl
  loaded := by
    refine forall_mem_start w fun u _ before h => ?_
    rw [Task.deeds_start] at h
    cases h
  replaced := by
    refine forall_mem_start w fun u _ h => ?_
    rw [Task.deeds_start] at h
    cases h

variable {w : World} {s : Scene}

theorem Alone.eq_of_mem (h : s.Alone w) {t x : Task} (ht : t ∈ s.tasks) (hx : x ∈ s.tasks) :
    x = t := by
  obtain ⟨y, hy⟩ := List.length_eq_one_iff.mp h.alone
  rw [hy, List.mem_singleton] at ht hx
  rw [ht, hx]

theorem Alone.eq_of_mem_set (h : s.Alone w) {i : Nat} {t t' x : Task}
    (htask : s.tasks[i]? = some t) (hx : x ∈ s.tasks.set i t') : x = t' := by
  obtain ⟨y, hy⟩ := List.length_eq_one_iff.mp h.alone
  rw [hy] at htask hx
  cases i with
  | zero => exact List.mem_singleton.mp hx
  | succ i => cases htask

theorem Alone.stores_eq (h : s.Alone w) {t : Task} (ht : t ∈ s.tasks)
    (hunwritten : t.deeds.written = false) : s.world.stores = w.stores :=
  h.untouched fun x hx => by rw [h.eq_of_mem ht hx, hunwritten]

/-- Whatever the task has loaded after its answer was stored in the given world. -/
theorem Alone.loaded_advance (h : s.Alone w) {sv : Services} {turn : Turn} {t : Task}
    (ht : t ∈ s.tasks) {r : Request} {next : r.Answer → Program t.useCase.Outcome}
    (hrest : t.rest = .call r next) {answer : r.Answer} {injected : Bool}
    (hreply : Reply sv s.world turn r answer injected) {before : Subscription}
    (hbefore : (t.advance r next answer injected).deeds.loaded = some before) :
    ∃ id, t.useCase.target? = some id ∧
      SubscriptionStore.findById w.subscriptions id = some before := by
  rw [Task.deeds_advance] at hbefore
  rcases Deeds.loaded_after hbefore with hold | ⟨id, injected', hlast⟩
  · exact h.loaded t ht before hold
  · cases hlast
    obtain ⟨hunwritten, htarget⟩ := (h.obeys t ht).permits hrest
    have hstores : s.world.subscriptions = w.subscriptions :=
      congrArg (fun stores => stores.2.1) (h.stores_eq ht hunwritten)
    exact ⟨id, htarget, hstores ▸ findById_of_reply hreply⟩

/-- A write of a use case that is about a subscription replaces the subscription it has loaded. -/
theorem Alone.replaced_advance (h : s.Alone w) {sv : Services} {turn : Turn} {t : Task}
    (ht : t ∈ s.tasks) {r : Request} {next : r.Answer → Program t.useCase.Outcome}
    (hrest : t.rest = .call r next) {id : SubscriptionId} (htarget : t.useCase.target? = some id)
    (hwrite : Exchange.isWrite
      { request := r, answer := ((s.world.facing turn).serve sv r).1, injected := false } = true) :
    ∃ before after, t.deeds.loaded = some before ∧
      t.useCase.Replaces t.deeds.declined before after ∧
      ((s.world.facing turn).serve sv r).2.stores =
        (w.plans, w.subscriptions.put after.id.value after, w.accounts) := by
  have hunwritten := ((h.obeys t ht).permits hrest).unwritten
  obtain ⟨before, c, -, hbefore, hreplaces, hserve⟩ :=
    (h.obeys t ht).replaces_of_write hrest htarget hwrite
  refine ⟨before, c, hbefore, hreplaces, ?_⟩
  obtain ⟨hplans, hsubscriptions, haccounts⟩ :=
    World.stores_eq_iff.mp (h.stores_eq ht hunwritten)
  rw [hserve]
  exact World.stores_eq_iff.mpr ⟨hplans, by rw [← hsubscriptions]; rfl, haccounts⟩

theorem Alone.step (h : s.Alone w) (sv : Services) (turn : Turn) : (s.step sv turn).Alone w where
  untouched := h.untouched.step sv turn
  obeys := obeys_writesOnce_step h.obeys
  alone := by
    have hlength := congrArg List.length (s.step_useCases sv turn)
    rw [List.length_map, List.length_map] at hlength
    rw [hlength, h.alone]
  loaded := step_tasks h.loaded fun t ht _ _ _ _ hrest hreply _ _ hbefore =>
    h.loaded_advance ht hrest hreply hbefore
  replaced := by
    intro x hx hwritten id htarget
    rcases s.step_cases sv turn with hidle | ⟨t, r, next, htask, hrest, hserved | hstruck⟩
    · rw [hidle] at hx ⊢
      exact h.replaced x hx hwritten id htarget
    · rw [hserved] at hx ⊢
      have ht := List.mem_of_getElem? htask
      obtain rfl := h.eq_of_mem_set htask hx
      have hwrite := Task.isWrite_of_advance ((h.obeys t ht).permits hrest).unwritten hwritten
      rw [Task.deeds_advance, Deeds.after_of_isWrite hwrite]
      exact h.replaced_advance ht hrest htarget hwrite
    · obtain ⟨fault, answer, -, hanswer, hstep⟩ := hstruck
      rw [hstep] at hx
      have ht := List.mem_of_getElem? htask
      obtain rfl := h.eq_of_mem_set htask hx
      have hwrite := Task.isWrite_of_advance ((h.obeys t ht).permits hrest).unwritten hwritten
      rw [Fault.isWrite_answer hanswer] at hwrite
      cases hwrite

theorem alone_run (sv : Services) (w : World) (u : UseCase) (turns : List Turn) :
    ((start w [u]).run sv turns).Alone w :=
  run_invariant (alone_start w u) fun _ turn _ hs => hs.step sv turn

theorem useCase_of_mem {sv : Services} {u : UseCase} {turns : List Turn} {t : Task}
    (ht : t ∈ ((start w [u]).run sv turns).tasks) : t.useCase = u := by
  have hmem := List.mem_map_of_mem (f := Task.useCase) ht
  rw [run_useCases] at hmem
  exact List.mem_singleton.mp hmem

/-! ## What failed calls leave behind -/

/-- A use case that has written in spite of a declined charge has returned, and reports it. -/
theorem Alone.reports_of_declined (h : s.Alone w) {t : Task} (ht : t ∈ s.tasks) {reason : String}
    (hwritten : t.deeds.written = true) (hdeclined : t.deeds.declined = some reason) :
    ∃ e, t.outcome? = some (.error e) ∧ t.useCase.ReportsDecline reason e := by
  have hobeys := h.obeys t ht
  cases hrest : t.rest with
  | call r next =>
    have hunwritten := (hobeys.permits hrest).unwritten
    rw [hwritten] at hunwritten
    cases hunwritten
  | done outcome =>
    have houtcome : t.outcome? = some outcome := by rw [Task.outcome?, hrest]
    have hends := hobeys.ends houtcome
    cases outcome with
    | ok value =>
      have hnone : t.deeds.declined = none := hends.1
      rw [hdeclined] at hnone
      cases hnone
    | error e =>
      obtain ⟨reason', hreason, hreports⟩ := hends hwritten
      have heq : some reason = some reason' := hdeclined.symm.trans hreason
      cases heq
      exact ⟨e, houtcome, hreports⟩

/-- A renewal that has written in spite of a declined charge has marked the row that it found. -/
theorem Alone.marked_of_declined (h : s.Alone w)
    (hwell : SubscriptionStore.WellFormed w.subscriptions) {t : Task} (ht : t ∈ s.tasks)
    {id : SubscriptionId} (hid : t.useCase = .renew id) {reason : String}
    (hwritten : t.deeds.written = true) (hdeclined : t.deeds.declined = some reason) :
    ∃ before now, SubscriptionStore.findById w.subscriptions id = some before ∧
      s.world.stores =
        (w.plans,
          w.subscriptions.put id.value { before with status := .pastDue, updatedAt := now },
          w.accounts) := by
  have htarget : t.useCase.target? = some id := by
    rw [hid]
    rfl
  obtain ⟨before, after, hbefore, hreplaces, hstores⟩ := h.replaced t ht hwritten id htarget
  rw [hid, hdeclined] at hreplaces
  obtain ⟨now, hnow⟩ := hreplaces
  rw [Subscription.updateStatus_code] at hnow
  obtain rfl := (Prod.mk.inj hnow).2
  obtain ⟨id', hid', hfound⟩ := h.loaded t ht before hbefore
  obtain rfl := Option.some.inj (htarget.symm.trans hid')
  -- the row carries the identifier under which the renewal found it
  have hnamed : before.id = id := hwell.named id.value before hfound
  refine ⟨before, now, hfound, ?_⟩
  rw [hstores]
  simp only [hnamed]

/-- A use case that ends in an error changes nothing that is stored, whatever the stores hold, the
clock shows and the faults are.  Only a renewal that marks its subscription after a declined
charge leaves something behind: it reports that the payment failed, and all that it changes
are the status of that subscription, which becomes past due, and the instant of its last
change. -/
theorem failed_call_changes_nothing (sv : Services) (w : World)
    (history : List SubscriptionStore.Call)
    (hstore : w.subscriptions = SubscriptionStore.run history) (u : UseCase) (turns : List Turn) :
    let s := (start w [u]).run sv turns
    ∀ t ∈ s.tasks,
      (∀ e, t.outcome? = some (.error e) →
        t.deeds.written = false ∨ t.deeds.declined = none → s.world.stores = w.stores) ∧
      (∀ reason, t.deeds.written = true → t.deeds.declined = some reason →
        (∃ e, t.outcome? = some (.error e) ∧ t.useCase.ReportsDecline reason e) ∧
        ∃ id before now, u = .renew id ∧
          SubscriptionStore.findById w.subscriptions id = some before ∧
          s.world.stores =
            (w.plans,
              w.subscriptions.put id.value { before with status := .pastDue, updatedAt := now },
              w.accounts)) := by
  intro s t ht
  have halone : s.Alone w := alone_run sv w u turns
  have hwell : SubscriptionStore.WellFormed w.subscriptions := by
    rw [hstore]
    exact SubscriptionStore.wellFormed_run history
  refine ⟨?_, ?_⟩
  · intro e houtcome hexcept
    have hends := (halone.obeys t ht).ends houtcome
    cases hwritten : t.deeds.written with
    | false => exact halone.stores_eq ht hwritten
    | true =>
      obtain ⟨reason, hreason, -⟩ := hends hwritten
      have hdeclined : t.deeds.declined = some reason := hreason
      simp [hwritten, hdeclined] at hexcept
  · intro reason hwritten hdeclined
    obtain ⟨e, houtcome, hreports⟩ := halone.reports_of_declined ht hwritten hdeclined
    obtain ⟨id, hid⟩ := hreports.eq_renew
    obtain ⟨before, now, hmarked⟩ :=
      halone.marked_of_declined hwell ht hid hwritten hdeclined
    exact ⟨⟨e, houtcome, hreports⟩, id, before, now, (useCase_of_mem ht).symm.trans hid, hmarked⟩

/-- A renewal of the kiosk's subscription whose charge is declined marks it past due. -/
theorem past_due_of_declined_renewal :
    let w := { World.subscribedKiosk with ledger := { decline := some "card expired" } }
    let s := (start w [.renew ⟨1⟩]).run Services.lenient (Turn.inOrder .epoch [0, 0, 0, 0, 0])
    s.tasks.length = 1 ∧ ∀ t ∈ s.tasks,
      (∃ e, t.outcome? = some (.error e) ∧ t.useCase.ReportsDecline "card expired" e) ∧
      ∃ id before now, UseCase.renew ⟨1⟩ = .renew id ∧
        SubscriptionStore.findById w.subscriptions id = some before ∧
        s.world.stores =
          (w.plans,
            w.subscriptions.put id.value { before with status := .pastDue, updatedAt := now },
            w.accounts) := by
  intro w s
  have hdeeds : ∀ t ∈ s.tasks, t.deeds.written = true ∧ t.deeds.declined = some "card expired" := by
    decide +kernel
  refine ⟨by decide +kernel, fun t ht => ?_⟩
  obtain ⟨hwritten, hdeclined⟩ := hdeeds t ht
  exact (failed_call_changes_nothing Services.lenient w
    [.create { SubscriptionStore.freshActive ⟨7⟩ with endDate := some .epoch }] rfl (.renew ⟨1⟩)
    (Turn.inOrder .epoch [0, 0, 0, 0, 0]) t ht).2 "card expired" hwritten hdeclined

end Scene

end RecurringBilling
