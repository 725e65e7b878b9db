import RecurringBilling.Proofs.Billing.Findings
import RecurringBilling.Proofs.Interleaving.Visits

/-!
# Integrity

What is stored stays well formed and closed under references.  A subscription is in place
when its user has an identifier, its plan is in the catalogue, its start is set and its
end, if there is one, comes after its start.  Plans are never taken away, so what was in
place when a use case loaded it is in place when it is written back, however stale the
copy; a period ends after it starts, so what is opened or extended is in place too.

Therefore a renewal always finds its plan, and nobody is ever told that an end would
come before a start.
-/

namespace RecurringBilling

open RecurringBilling.Calendar

/-! ## Subscriptions in place -/

namespace Subscription

/-- The subscription refers to a user and a plan that there are, and covers a time. -/
structure InPlace (plans : PlanStore) (s : Subscription) : Prop where
  user : s.user.isAssigned = true
  plan : ∃ p, PlanStore.findById plans s.plan = some p
  start : s.startDate.isUnset = false
  ends : ∀ t, s.endDate = some t → s.startDate.isBefore t = true

namespace InPlace

variable {plans : PlanStore} {s before after : Subscription} {f : Findings}

theorem keeps {plans' : PlanStore} (h : s.InPlace plans) (hkeeps : PlanStore.Keeps plans plans') :
    s.InPlace plans' := by
  obtain ⟨p, hp⟩ := h.plan
  exact { h with plan := ⟨p, hkeeps s.plan p hp⟩ }

theorem not_isReversed (h : s.InPlace plans) : s.isReversed = false := by
  unfold isReversed
  cases hend : s.endDate with
  | none => rfl
  | some t => exact Instant.not_isBefore_of_isBefore (h.ends t hend)

/-- The next period ends after the start of the subscription. -/
theorem isBefore_nextEnd (h : s.InPlace plans) {interval : PlanInterval} {e : Instant}
    (he : periodEnd? (Renew.nextStart s) interval = some e) : s.startDate.isBefore e = true := by
  have hlater := isBefore_of_periodEnd? he
  unfold Renew.nextStart at hlater
  cases hend : s.endDate with
  | none =>
    rw [hend] at hlater
    exact hlater
  | some t =>
    rw [hend] at hlater
    exact Instant.isBefore_trans (h.ends t hend) hlater

/-- A new subscription to a plan in the catalogue is in place. -/
theorem of_opens {owner : UserId} {planId : PlanId} {p : Plan} (h : f.Opens owner planId s p)
    (hp : PlanStore.findById plans planId = some p) : s.InPlace plans where
  user := by rw [h.user, h.assigned]
  plan := ⟨p, by rw [h.plan, hp]⟩
  start := h.isSet
  ends := by
    intro t ht
    rw [h.ends] at ht
    exact isBefore_of_periodEnd? ht

/-- What replaces a subscription in place is in place. -/
theorem of_amends (h : before.InPlace plans) (horigin : before.SameOrigin after) {u : UseCase}
    (hamends : u.Amends f before after) : after.InPlace plans where
  user := by rw [horigin.user, h.user]
  plan := by
    rw [horigin.plan]
    exact h.plan
  start := by rw [horigin.startDate, h.start]
  ends := by
    intro t ht
    rw [horigin.startDate]
    cases u with
    | renew id =>
      obtain ⟨p, e, hrenews, hsame | hmoved⟩ := hamends
      · exact h.ends t (hsame.symm.trans ht)
      · rw [hmoved] at ht
        cases ht
        exact h.isBefore_nextEnd hrenews.ends
    | subscribe user planId => exact hamends.elim
    | _ => exact h.ends t (Eq.trans (Eq.symm hamends) ht)

end InPlace

end Subscription

/-! ## Findings that hold -/

namespace Findings

variable {f : Findings} {e : Exchange}

/-- What has been loaded was loaded before the last exchange, or by it. -/
theorem loaded_of_after {s : Subscription} (h : (f.after e).loaded = some s) :
    f.loaded = some s ∨ ∃ id injected,
      e = { request := .findSubscription id, answer := .ok (some s), injected } := by
  unfold after at h
  split at h
  · next id x injected =>
    rcases Option.or_eq_some_iff.mp h with hold | ⟨-, hnew⟩
    · exact Or.inl hold
    · cases hnew
      exact Or.inr ⟨id, injected, rfl⟩
  all_goals exact Or.inl h

/-- What has been found of a plan was found before the last exchange, or by it. -/
theorem plan_of_after {id : PlanId} {found : Option Plan}
    (h : (f.after e).plan = some (id, found)) :
    f.plan = some (id, found) ∨ ∃ injected,
      e = { request := .findPlan id, answer := .ok found, injected } := by
  unfold after at h
  split at h
  · exact Or.inl h
  · next id' x injected =>
    rcases Option.or_eq_some_iff.mp h with hold | ⟨-, hnew⟩
    · exact Or.inl hold
    · cases hnew
      exact Or.inr ⟨injected, rfl⟩
  all_goals exact Or.inl h

end Findings

/-- What the use case has found is there: its subscription was in place, and so is its plan, which a
renewal never misses. -/
structure Task.Informed (plans : PlanStore) (t : Task) : Prop where
  loaded : ∀ s, t.findings.loaded = some s → s.InPlace plans
  found : ∀ id p, t.findings.plan = some (id, some p) → PlanStore.findById plans id = some p
  renews : ∀ target id, t.useCase = .renew target → t.findings.plan ≠ some (id, none)

namespace Task.Informed

variable {plans : PlanStore} {t : Task}

theorem start (u : UseCase) : (Task.start u).Informed plans where
  loaded := fun _ h => by cases h
  found := fun _ _ h => by cases h
  renews := fun _ _ _ h => by cases h

theorem keeps {plans' : PlanStore} (h : t.Informed plans) (hkeeps : PlanStore.Keeps plans plans') :
    t.Informed plans' where
  loaded := fun s hs => (h.loaded s hs).keeps hkeeps
  found := fun id p hp => hkeeps id p (h.found id p hp)
  renews := h.renews

end Task.Informed

/-! ## Tidy worlds -/

/-- The stores are in order, every subscription is in place, and no user has two active ones. -/
structure World.Tidy (w : World) : Prop where
  order : w.InOrder
  rows : ∀ k x, w.subscriptions.find? k = some x → x.InPlace w.plans
  oneActive : SubscriptionStore.OneActive w.subscriptions

theorem World.tidy_of_empty {w : World} (hplans : w.plans = {})
    (hsubscriptions : w.subscriptions = {}) : w.Tidy where
  order := by
    constructor
    · rw [hplans]
      exact Store.ordered_empty
    · rw [hsubscriptions]
      exact SubscriptionStore.wellFormed_empty
  rows := by
    intro k x hx
    rw [hsubscriptions] at hx
    cases hx
  oneActive := by
    rw [hsubscriptions]
    intro user
    exact Nat.zero_le 1

namespace Scene

/-- The world is tidy, and every use case does what its findings warrant, which hold. -/
structure Tidy (s : Scene) : Prop where
  world : s.world.Tidy
  obeys : ∀ t ∈ s.tasks, t.Obeys UseCase.warranted {}
  informed : ∀ t ∈ s.tasks, t.Informed s.world.plans

theorem tidy_start {w : World} (hw : w.Tidy) (calls : List UseCase) : (start w calls).Tidy where
  world := hw
  obeys := obeys_warranted_start w calls
  informed := forall_mem_start w fun u _ => Task.Informed.start u

variable {s : Scene}

/-- A use case learns from the world only what holds. -/
theorem Tidy.informed_advance (h : s.Tidy) {sv : Services} {turn : Turn} {t : Task}
    (ht : t ∈ s.tasks) {r : Request} {next : r.Answer → Program t.useCase.Outcome}
    (hrest : t.rest = .call r next) {answer : r.Answer} {injected : Bool}
    (hreply : Reply sv s.world turn r answer injected) :
    (t.advance r next answer injected).Informed s.world.plans where
  loaded := by
    intro x hx
    rw [Task.findings_advance] at hx
    rcases Findings.loaded_of_after hx with hold | ⟨id, injected', hlast⟩
    · exact (h.informed t ht).loaded x hold
    · cases hlast
      exact h.world.rows id.value x (findById_of_reply hreply)
  found := by
    intro id p hp
    rw [Task.findings_advance] at hp
    rcases Findings.plan_of_after hp with hold | ⟨injected', hlast⟩
    · exact (h.informed t ht).found id p hold
    · cases hlast
      exact findPlan_of_reply hreply
  renews := by
    intro target id hu hp
    rw [Task.findings_advance] at hp
    rcases Findings.plan_of_after hp with hold | ⟨injected', hlast⟩
    · exact (h.informed t ht).renews target id hu hold
    · cases hlast
      -- the plan that a renewal looks up is that of a subscription in place
      have hlooks : t.useCase.LooksUp t.findings id := (h.obeys t ht).warrants hrest
      rw [Task.advance_useCase] at hu
      rw [hu] at hlooks
      obtain ⟨before, hloaded, rfl⟩ := hlooks
      obtain ⟨p, hplan⟩ := ((h.informed t ht).loaded before hloaded).plan
      rw [findPlan_of_reply hreply] at hplan
      cases hplan

/-- Whatever a use case writes is in place. -/
theorem Tidy.inPlace_of_call (h : s.Tidy) {t : Task} (ht : t ∈ s.tasks) {r : Request}
    {next : r.Answer → Program t.useCase.Outcome} (hrest : t.rest = .call r next)
    {call : SubscriptionStore.Call} (hcall : r.storeCall? = some call) {c : Subscription}
    (hc : call = .create c ∨ call = .update c) : c.InPlace s.world.plans := by
  have hwarrants := (h.obeys t ht).warrants hrest
  cases r with
  | createSubscription x =>
    cases hcall
    rcases hc with hc | hc
    · cases hc
      obtain ⟨user, planId, p, -, hopens⟩ := UseCase.Stores.opens hwarrants
      exact .of_opens hopens ((h.informed t ht).found planId p hopens.found)
    · cases hc
  | updateSubscription x =>
    cases hcall
    rcases hc with hc | hc
    · cases hc
    · cases hc
      obtain ⟨before, hloaded, -, horigin, hamends⟩ := hwarrants
      exact ((h.informed t ht).loaded before hloaded).of_amends horigin hamends
  | _ => cases hcall

theorem Tidy.world_step (h : s.Tidy) (sv : Services) (turn : Turn) :
    (s.step sv turn).world.Tidy where
  order := (inOrder_step h.world.order sv turn).1
  rows := by
    intro k x hx
    have hkeeps := (inOrder_step h.world.order sv turn).2
    rcases s.step_subscriptions sv turn with hsame | ⟨t, r, next, call, htask, hrest, hcall, hafter⟩
    · rw [hsame] at hx
      exact (h.world.rows k x hx).keeps hkeeps
    · have ht := List.mem_of_getElem? htask
      rw [hafter] at hx
      rcases SubscriptionStore.Call.find?_after_cases hx with hold | ⟨c, id, rfl, rfl⟩ | rfl
      · exact (h.world.rows k x hold).keeps hkeeps
      · have hc := h.inPlace_of_call ht hrest hcall (Or.inl rfl)
        -- the identifier that the store assigns is none of the references
        exact ({ hc with } : (c.withId id).InPlace s.world.plans).keeps hkeeps
      · exact (h.inPlace_of_call ht hrest hcall (Or.inr rfl)).keeps hkeeps
  oneActive := by
    rcases s.step_subscriptions sv turn with hsame | ⟨t, r, next, call, htask, hrest, hcall, hafter⟩
    · rw [hsame]
      exact h.world.oneActive
    · have hwell := h.world.order.subscriptions
      rw [hafter, SubscriptionStore.Call.oneActive_after_iff hwell h.world.oneActive]
      have hwarrants := (h.obeys t (List.mem_of_getElem? htask)).warrants hrest
      cases r with
      | createSubscription c =>
        cases hcall
        obtain ⟨_, _, _, -, hopens⟩ := UseCase.Stores.opens hwarrants
        exact SubscriptionStore.Call.not_readds_of_unassigned hwell hopens.id
      | updateSubscription c =>
        cases hcall
        rfl
      | _ => cases hcall

theorem Tidy.step (h : s.Tidy) (sv : Services) (turn : Turn) : (s.step sv turn).Tidy where
  world := h.world_step sv turn
  obeys := obeys_warranted_step h.obeys
  informed := by
    have hkeeps := (inOrder_step h.world.order sv turn).2
    refine step_tasks (fun t ht => (h.informed t ht).keeps hkeeps) ?_
    intro t ht r next answer injected hrest hreply _
    exact (h.informed_advance ht hrest hreply).keeps hkeeps

theorem Tidy.run (h : s.Tidy) (sv : Services) (turns : List Turn) : (s.run sv turns).Tidy :=
  run_invariant h fun _ turn _ hs => hs.step sv turn

/-! ## Errors that nobody sees -/

/-- Nobody who has loaded a subscription in place is told that an end comes before a start. -/
theorem Tidy.failure?_ne_endBeforeStart (h : s.Tidy) {t : Task} (ht : t ∈ s.tasks) :
    t.failure? ≠ some .endBeforeStart := by
  unfold Task.failure?
  split
  · next e houtcome =>
    refine ((h.obeys t ht).concludes houtcome).ne_endBeforeStart fun before hloaded => ?_
    exact ((h.informed t ht).loaded before hloaded).not_isReversed
  · rintro ⟨⟩

/-- No renewal is told that its plan is missing. -/
theorem Tidy.failure?_ne_planNotFound (h : s.Tidy) {t : Task} (ht : t ∈ s.tasks)
    {id : SubscriptionId} (hid : t.useCase = .renew id) (planId : PlanId) :
    t.failure? ≠ some (.planNotFound planId) := by
  unfold Task.failure?
  split
  · next e houtcome =>
    intro hmissing
    exact (h.informed t ht).renews id planId hid
      (((h.obeys t ht).concludes houtcome).plan_of_planNotFound hid hmissing)
  · rintro ⟨⟩

/-- Whatever use cases run side by side over stores that are empty at first, in whatever order and
with whatever faults and readings of the clock: every stored subscription stands under its
own identifier, which the store has handed out, and is in place.  No renewal is told that
its plan is missing, and nobody that an end comes before a start. -/
theorem subscriptions_stay_in_place (sv : Services) (w : World) (hplans : w.plans = {})
    (hsubscriptions : w.subscriptions = {}) (calls : List UseCase) (turns : List Turn) :
    let s := (start w calls).run sv turns
    s.tasks.map Task.useCase = calls ∧
      (∀ k x, (k, x) ∈ s.world.subscriptions.entries →
        x.id = ⟨k⟩ ∧ 1 ≤ k ∧ k ≤ s.world.subscriptions.lastId ∧ x.InPlace s.world.plans) ∧
      ∀ t ∈ s.tasks, t.failure? ≠ some .endBeforeStart ∧
        ∀ id, t.useCase = .renew id → ∀ planId, t.failure? ≠ some (.planNotFound planId) := by
  intro s
  have htidy : s.Tidy :=
    (tidy_start (World.tidy_of_empty hplans hsubscriptions) calls).run sv turns
  have hwell := htidy.world.order.subscriptions
  refine ⟨run_useCases sv w calls turns, ?_, ?_⟩
  · intro k x hx
    have hfind := hwell.ordered.mem_entries_iff.mp hx
    obtain ⟨hpos, hissued⟩ := hwell.ordered.issued (k, x) hx
    exact ⟨hwell.named k x hfind, hpos, hissued, htidy.world.rows k x hfind⟩
  · intro t ht
    exact ⟨htidy.failure?_ne_endBeforeStart ht,
      fun id hid planId => htidy.failure?_ne_planNotFound ht hid planId⟩

/-- In an empty world a plan is added, a user subscribes to it and renews, and a change that had
loaded the subscription before the renewal puts the old end back: it is in place all the same. -/
theorem stale_copy_in_place :
    let s := (start { now := .epoch }
        [.createPlan .basic, .subscribe ⟨7⟩ ⟨1⟩, .renew ⟨1⟩, .changeAutoRenew ⟨1⟩ false]).run
      Services.lenient
      (Turn.inOrder .epoch [0, 0, 1, 1, 1, 1, 1, 1, 2, 2, 2, 3, 3, 2, 2, 3])
    s.isOver = true ∧ s.world.subscriptions.entries.map (fun e => e.2.endDate) =
        [Instant.epoch.plusMonths? 1] ∧
      (∀ k x, (k, x) ∈ s.world.subscriptions.entries →
        x.id = ⟨k⟩ ∧ 1 ≤ k ∧ k ≤ s.world.subscriptions.lastId ∧ x.InPlace s.world.plans) ∧
      ∀ t ∈ s.tasks, t.failure? ≠ some .endBeforeStart ∧
        ∀ id, t.useCase = .renew id → ∀ planId, t.failure? ≠ some (.planNotFound planId) := by
  refine ⟨by decide +kernel, by decide +kernel, ?_⟩
  exact (subscriptions_stay_in_place Services.lenient { now := .epoch } rfl rfl _ _).2

end Scene

end RecurringBilling
