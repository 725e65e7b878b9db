import RecurringBilling.Proofs.Billing.Renewal
import RecurringBilling.Proofs.Interleaving.Visits

/-!
# What subscribing and renewing yield

Whoever subscribes or renews with success tells the subscription that has been stored.  A new
one is on the plan that was found and ends with its first period; a renewed one is the
subscription that was loaded, with the end moved on by one period of its plan.  In a visit
the row that has been stored is the row that is there afterwards, because nothing is
asked any more once it is stored.
-/

namespace RecurringBilling

open RecurringBilling.Calendar

/-- The subscription that an exchange has stored. -/
def Exchange.stored? : Exchange → Option Subscription
  | { request := .createSubscription _, answer := .ok s, injected := _ } => some s
  | { request := .updateSubscription s, answer := .ok _, injected := _ } => some s
  | _ => none

theorem Exchange.stored?_of_not_isWrite {e : Exchange} (h : e.isWrite = false) :
    e.stored? = none := by
  unfold stored?
  split
  · cases h
  · cases h
  · rfl

/-- What a use case has done, and the subscription that it has stored last. -/
structure Holding where
  deeds : Deeds := {}
  stored : Option Subscription := none
  deriving DecidableEq

/-- What is held after one more exchange. -/
def Holding.after (h : Holding) (e : Exchange) : Holding :=
  { deeds := h.deeds.after e, stored := e.stored?.or h.stored }

/-- What a use case holds. -/
def Task.holding (t : Task) : Holding := t.log.foldl Holding.after {}

namespace UseCase

/-- What a use case may rely on: plans are found as they are stored, and a new subscription is
stored under some identifier and otherwise as it is. -/
def Honest (plans : PlanStore) : Exchange → Prop
  | { request := .findPlan id, answer := .ok found, injected := _ } =>
    found = PlanStore.findById plans id
  | { request := .createSubscription s, answer := .ok x, injected := _ } => ∃ id, x = s.withId id
  | _ => True

/-- The result of a use case tells what it has stored: a first period, or the next one. -/
def Yields (plans : PlanStore) : (u : UseCase) → Holding → u.Value → Prop
  | .subscribe user plan, h, v => h.stored = some v.subscription ∧ v.subscription.user = user ∧
    v.subscription.plan = plan ∧ ∃ p, PlanStore.findById plans plan = some p ∧
      v.subscription.endDate = periodEnd? v.subscription.startDate p.terms.interval
  | .renew _, h, v => h.stored = some v.subscription ∧ ∃ before, h.deeds.loaded = some before ∧
    Renewal.Extends plans before v.subscription ∧ v.previousEnd = before.endDate
  | _, _, _ => True

/-- The conduct of telling what has been stored, for results of any type. -/
def telling {ε α : Type} (plans : PlanStore) (yields : Holding → α → Prop) :
    Conduct Holding (Except ε α) where
  after := Holding.after
  allows := fun _ _ => True
  ends
    | h, .ok v => yields h v
    | _, .error _ => True
  rely := Honest plans

/-- The conduct of telling what has been stored. -/
def tellsStored (plans : PlanStore) (u : UseCase) : Conduct Holding u.Outcome :=
  telling plans (u.Yields plans)

end UseCase

namespace Holding

open UseCase (tellsStored)

variable {plans : PlanStore}

/-- The deeds that are held are those of the log. -/
theorem deeds_foldl (log : List Exchange) (h : Holding) :
    (log.foldl Holding.after h).deeds = log.foldl Deeds.after h.deeds := by
  induction log generalizing h with
  | nil => rfl
  | cons e log ih => exact ih (h.after e)

/-- A renewal tells the period that it has stored. -/
theorem ends_of_renew {id : SubscriptionId} {log : List Exchange} {a : Except BillingError Renewed}
    (h : Renew.Ends id log a) (hrely : ∀ e ∈ log, UseCase.Honest plans e) :
    (tellsStored plans (.renew id)).ends (log.foldl Holding.after {}) a := by
  cases h with
  | @renewed log before p nextEnd now receipt h hordered i =>
    obtain ⟨_, hplan⟩ := h.told.2.rely fun e he => hrely e (List.mem_append_left _ he)
    rw [List.foldl_concat]
    refine ⟨rfl, before, ?_, ⟨p, nextEnd, now, Eq.symm hplan, h.periodEnd, rfl⟩, rfl⟩
    rw [Holding.after, deeds_foldl, Deeds.of_paid h]
    rfl
  | _ => exact trivial

/-- What a subscriber has settled is the first period on the plan that was found. -/
theorem yields_of_settled {user : UserId} {planId : PlanId} {log : List Exchange}
    {s : Subscription} {receipt : Option Receipt} (h : Subscribe.Settled user planId log s receipt)
    (hrely : ∀ e ∈ log, UseCase.Honest plans e) :
    s.user = user ∧ s.plan = planId ∧ ∃ p, PlanStore.findById plans planId = some p ∧
      s.endDate = periodEnd? s.startDate p.terms.interval := by
  obtain ⟨earlier, later, p, rfl, hdrafted, -⟩ := h.drafted
  obtain ⟨-, -, huser, hplan, hend⟩ := hdrafted.covers
  obtain ⟨_, hfound⟩ := (hdrafted.told.1.append later).rely hrely
  exact ⟨huser, hplan, p, Eq.symm hfound, hend⟩

theorem ends_of_subscribe {user : UserId} {planId : PlanId} {log : List Exchange}
    {a : Except BillingError Subscribed} (h : Subscribe.Ends user planId log a)
    (hrely : ∀ e ∈ log, UseCase.Honest plans e) :
    (tellsStored plans (.subscribe user planId)).ends (log.foldl Holding.after {}) a := by
  cases h with
  | stored h x i =>
    obtain ⟨huser, hplan, hfirst⟩ :=
      yields_of_settled h fun e he => hrely e (List.mem_append_left _ he)
    -- the identifier is all that the store sets
    obtain ⟨id, rfl⟩ := hrely _ (List.mem_append_right _ (List.mem_singleton_self _))
    rw [List.foldl_concat]
    exact ⟨rfl, huser, hplan, hfirst⟩
  | _ => exact trivial

/-- Every use case tells what it has stored. -/
theorem obeys_tellsStored (u : UseCase) : u.program.Obeys (tellsStored plans u) {} := by
  refine u.follows.obeys (fun _ _ _ _ => trivial) fun log a h hrely => ?_
  cases u with
  | subscribe user planId => exact ends_of_subscribe h hrely
  | renew id => exact ends_of_renew h hrely
  | _ => cases a <;> exact trivial

end Holding

/-! ## What a visit leaves stored -/

namespace Task

theorem holding_advance (t : Task) (r : Request) (next : r.Answer → Program t.useCase.Outcome)
    (answer : r.Answer) (injected : Bool) :
    (t.advance r next answer injected).holding =
      t.holding.after { request := r, answer, injected } :=
  stateBy_advance (UseCase.tellsStored {}) {} r next answer injected

theorem holding_deeds (t : Task) : t.holding.deeds = t.deeds := Holding.deeds_foldl t.log {}

end Task

namespace World

/-- A new subscription is refused, or stored under the next identifier. -/
theorem serve_create_cases (sv : Services) (w : World) (c : Subscription) :
    w.serve sv (.createSubscription c) = (.error (SubscriptionStore.secondActive c.user), w) ∨
      w.serve sv (.createSubscription c) = (.ok (c.withId ⟨w.subscriptions.lastId + 1⟩),
        { w with subscriptions := (w.subscriptions.add fun id => c.withId ⟨id⟩).2 }) := by
  cases hother : SubscriptionStore.hasOtherActive w.subscriptions c with
  | true => exact Or.inl (by simp [serve, written, SubscriptionStore.create, hother])
  | false => exact Or.inr (by simp [serve, written, SubscriptionStore.create, hother, Store.add])

/-- An answer that has stored a subscription leaves it under its identifier. -/
theorem findById_of_stored? (sv : Services) (w : World) {r : Request} {injected : Bool}
    {x : Subscription}
    (h : Exchange.stored? { request := r, answer := (w.serve sv r).1, injected } = some x) :
    SubscriptionStore.findById (w.serve sv r).2.subscriptions x.id = some x := by
  cases r with
  | createSubscription c =>
    rcases serve_create_cases sv w c with hrefused | hstored
    · rw [hrefused] at h
      cases h
    · rw [hstored] at h ⊢
      cases h
      exact (Store.find?_add w.subscriptions (fun id => c.withId ⟨id⟩) _).trans (if_pos rfl)
  | updateSubscription c =>
    cases hanswer : (w.serve sv (.updateSubscription c)).1 with
    | error f =>
      rw [hanswer] at h
      cases h
    | ok _ =>
      rw [hanswer] at h
      cases h
      rw [serve_update_of_ok sv hanswer]
      exact (Store.find?_put _ _ _ _).trans (if_pos rfl)
  | _ => cases h

end World

namespace Scene

variable {sv : Services} {w : World} {s : Scene} {turn : Turn}

/-- The world is honest, and faults answer with failures only. -/
theorem honest_of_reply {r : Request} {answer : r.Answer} {injected : Bool}
    (h : Reply sv s.world turn r answer injected) :
    UseCase.Honest s.world.plans { request := r, answer, injected } := by
  cases h with
  | served =>
    cases r with
    | findPlan id => exact rfl
    | createSubscription c =>
      rcases World.serve_create_cases sv (s.world.facing turn) c with hrefused | hstored
      · rw [hrefused]
        exact trivial
      · rw [hstored]
        exact ⟨_, rfl⟩
    | _ => exact trivial
  | struck hfault hanswer =>
    cases r with
    | findPlan | createSubscription =>
      obtain ⟨f, -, rfl⟩ := Option.map_eq_some_iff.mp hanswer
      exact trivial
    | _ => exact trivial

/-- The one use case under way tells what it has stored, and that is the row which is there. -/
structure Telling (w : World) (s : Scene) : Prop where
  alone : s.Alone w
  obeys : ∀ t ∈ s.tasks, t.Obeys (UseCase.tellsStored w.plans) {}
  stored : ∀ t ∈ s.tasks, ∀ x, t.holding.stored = some x → t.deeds.written = true ∧
    SubscriptionStore.findById s.world.subscriptions x.id = some x

theorem telling_start (w : World) (u : UseCase) : (start w [u]).Telling w where
  alone := alone_start w u
  obeys := forall_mem_start w fun u _ => Holding.obeys_tellsStored u
  stored := forall_mem_start w fun _ _ _ h => by cases h

theorem Telling.step (h : s.Telling w) (sv : Services) (turn : Turn) :
    (s.step sv turn).Telling w where
  alone := h.alone.step sv turn
  obeys := by
    refine step_tasks h.obeys fun t ht r next answer injected hrest hreply hobeys => ?_
    -- whoever asks has not written, so the plans are those of the given world
    have hunwritten := ((h.alone.obeys t ht).permits hrest).unwritten
    have hplans : s.world.plans = w.plans := congrArg Prod.fst (h.alone.stores_eq ht hunwritten)
    have hhonest := honest_of_reply hreply
    rw [hplans] at hhonest
    exact hobeys.advance hrest hhonest
  stored := by
    intro x hx y hy
    rcases s.step_cases sv turn with hidle | ⟨t, r, next, htask, hrest, hserved | hstruck⟩
    · rw [hidle] at hx ⊢
      exact h.stored x hx y hy
    all_goals
      have ht := List.mem_of_getElem? htask
      have hunwritten := ((h.alone.obeys t ht).permits hrest).unwritten
      have hnone : t.holding.stored = none := by
        rw [Option.eq_none_iff_forall_ne_some]
        intro z hz
        rw [(h.stored t ht z hz).1] at hunwritten
        cases hunwritten
    · rw [hserved] at hx ⊢
      obtain rfl := h.alone.eq_of_mem_set htask hx
      rw [Task.holding_advance, Holding.after, hnone, Option.or_none] at hy
      refine ⟨?_, World.findById_of_stored? sv _ hy⟩
      rw [Task.deeds_advance, Deeds.written_after]
      by_contra hnot
      simp only [Bool.or_eq_true, not_or, Bool.not_eq_true] at hnot
      rw [Exchange.stored?_of_not_isWrite hnot.2] at hy
      cases hy
    · obtain ⟨fault, answer, -, hanswer, hstep⟩ := hstruck
      rw [hstep] at hx
      obtain rfl := h.alone.eq_of_mem_set htask hx
      rw [Task.holding_advance, Holding.after, hnone, Option.or_none,
        Exchange.stored?_of_not_isWrite (Fault.isWrite_answer hanswer)] at hy
      cases hy

theorem telling_visit (sv : Services) (w : World) (v : Visit) : (w.visit sv v).Telling w :=
  run_invariant (telling_start w v.useCase) fun _ turn _ hs => hs.step sv turn

end Scene

end RecurringBilling
