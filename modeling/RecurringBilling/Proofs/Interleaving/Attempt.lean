import RecurringBilling.Proofs.Calendar.Succession
import RecurringBilling.Proofs.Interleaving.Scripts

/-!
# Attempts to subscribe

An attempt to subscribe is pending until the store answers: it is refused when the user
turns out to have an active subscription, at the look-up or at the write, and it is
stored when the write goes through.  Where plans are found, charges are accepted, the
clock is not before 1970 and nothing fails, these are the only ways in which an
attempt can end, and a refused one reports the active subscription.
-/

namespace RecurringBilling

open RecurringBilling.Calendar

/-- Where an attempt to subscribe stands. -/
inductive Attempt where
  | pending
  | refused
  | stored
  deriving DecidableEq

namespace Attempt

/-- How an exchange moves the attempt. -/
def after : Attempt → Exchange → Attempt
  | _, { request := .findActiveSubscription _, answer := .ok (some _), injected := _ } => .refused
  | _, { request := .createSubscription _, answer := .ok _, injected := _ } => .stored
  | _, { request := .createSubscription _, answer := .error _, injected := _ } => .refused
  | st, _ => st

/-- What an attempt may rely on: the plan is found, charges are accepted, a refused row is one of a
user with an active row, and the clock is not before 1970. -/
def rely (planId : PlanId) : Exchange → Prop
  | { request := .clock, answer := now, injected := _ } => now.isBefore .epoch = false
  | { request := .findPlan id, answer, injected := _ } =>
    id = planId → ∃ p, answer = .ok (some p)
  | { request := .findActiveSubscription _, answer, injected := _ } => ∃ found, answer = .ok found
  | { request := .charge _ _, answer, injected := _ } => ∃ r, answer = .ok r
  | { request := .createSubscription s, answer, injected := _ } =>
    ∀ f, answer = .error f → f = SubscriptionStore.secondActive s.user
  | _ => True

/-- How an attempt may end. -/
def ends (user : UserId) : Attempt → Except BillingError Subscribed → Prop
  | st, .ok _ => st = .stored
  | st, .error e => st = .refused ∧ e = .alreadySubscribed user

/-- The conduct of an attempt: nothing is asked any more once the row is stored. -/
def conduct (user : UserId) (planId : PlanId) :
    Conduct Attempt (Except BillingError Subscribed) where
  after := after
  allows := fun st _ => st ≠ .stored
  ends := ends user
  rely := rely planId

/-- The conduct of an attempt, for use cases; the others are no attempts. -/
def ofUseCase : (u : UseCase) → Conduct Attempt u.Outcome
  | .subscribe user planId => conduct user planId
  | _ => { after := fun st _ => st, allows := fun _ _ => True, ends := fun _ _ => True }

theorem pending_ne_stored : pending ≠ stored := by decide

theorem refused_ne_stored : refused ≠ stored := by decide

section Places

variable {user : UserId} {planId : PlanId} {log : List Exchange} {s : Subscription}

/-- A draft that starts on a set clock and ends with its first period breaks no rule. -/
theorem create_of_started (h : Subscribe.Admits user planId) {startDate : Instant}
    (hstart : startDate.isBefore .epoch = false) (plan : Plan) (now : Instant) :
    ∃ s, Subscription.create { user, plan := planId, startDate
                               endDate := periodEnd? startDate plan.terms.interval } now =
      .ok s := by
  have hset := Instant.isUnset_of_not_isBefore_epoch hstart
  -- a period ends after its start, so no draft ends before it starts
  have hend : (periodEnd? startDate plan.terms.interval).any (·.isBefore startDate) = false := by
    cases hperiod : periodEnd? startDate plan.terms.interval with
    | none => rfl
    | some e => exact Instant.not_isBefore_of_isBefore (isBefore_of_periodEnd? hperiod)
  simp [Subscription.create, SubscriptionDraft.error?, h.user, h.plan, hset, hend]

theorem of_drafted {p : Plan} (h : Subscribe.Drafted user planId log s p) :
    log.foldl after pending = pending := by
  cases h
  rfl

theorem of_settled {receipt : Option Receipt} (h : Subscribe.Settled user planId log s receipt) :
    log.foldl after pending = pending := by
  cases h with
  | trial h _ => exact of_drafted h
  | charged h _ receipt i =>
    rw [List.foldl_concat, of_drafted h]
    rfl

/-- Nothing is asked any more once the row is stored, as the only request after the write is the
refund of one that was refused. -/
theorem ne_stored_of_asks {r : Request} (h : Subscribe.Asks user planId log r) :
    log.foldl after pending ≠ stored := by
  cases h with
  | charge h _ =>
    rw [of_drafted h]
    exact pending_ne_stored
  | store h =>
    rw [of_settled h]
    exact pending_ne_stored
  | refund h f i =>
    rw [List.foldl_concat, of_settled h]
    exact refused_ne_stored
  | _ => exact pending_ne_stored

/-- A refusal of the store is reported as the active subscription it is about. -/
theorem eq_alreadySubscribed {receipt : Option Receipt}
    (h : Subscribe.Settled user planId log s receipt) {f : Failure} {i : Bool}
    {later : List Exchange}
    (hlog : ∀ e ∈ log ++ ⟨.createSubscription s, .error f, i⟩ :: later, rely planId e) :
    BillingError.ofCreation s.user f = .alreadySubscribed user := by
  obtain ⟨earlier, _, p, -, hdrafted, -⟩ := h.drafted
  obtain ⟨-, -, huser, -, -⟩ := hdrafted.covers
  have hf : f = SubscriptionStore.secondActive s.user :=
    hlog _ (List.mem_append_right _ List.mem_cons_self) f rfl
  rw [hf, BillingError.ofCreation, huser]
  rfl

/-- Under the conduct the plan is found, the look-up and the charge do not fail and the draft breaks
no rule; so the row is stored, or the user has an active subscription. -/
theorem ends_of_ends (hadmits : Subscribe.Admits user planId)
    {a : Except BillingError Subscribed} (h : Subscribe.Ends user planId log a)
    (hlog : ∀ e ∈ log, rely planId e) : ends user (log.foldl after pending) a := by
  cases h with
  | noUser hmissing =>
    rw [hadmits.user] at hmissing
    cases hmissing
  | noPlan hmissing =>
    rw [hadmits.plan] at hmissing
    cases hmissing
  | planFailed | planMissing =>
    obtain ⟨_, hfound⟩ := hlog _ List.mem_cons_self rfl
    cases hfound
  | failed =>
    obtain ⟨_, hlooked⟩ := hlog _ (List.mem_cons_of_mem _ List.mem_cons_self)
    cases hlooked
  | taken => exact ⟨rfl, rfl⟩
  | unsound h hcreate i j k l =>
    have hstart := hlog _ (List.mem_cons_of_mem _ (List.mem_cons_of_mem _ List.mem_cons_self))
    obtain ⟨s, hdraft⟩ := create_of_started h hstart _ _
    rw [hdraft] at hcreate
    cases hcreate
  | uncharged h _ f i =>
    obtain ⟨_, hcharged⟩ := hlog _ (List.mem_append_right _ List.mem_cons_self)
    cases hcharged
  | stored h x i =>
    rw [List.foldl_concat, of_settled h]
    exact rfl
  | unstored h f i =>
    rw [List.foldl_concat, of_settled h]
    exact ⟨rfl, eq_alreadySubscribed h hlog⟩
  | refunded h f answer i j =>
    rw [List.foldl_concat, List.foldl_concat, of_settled h]
    rw [List.append_assoc] at hlog
    exact ⟨rfl, eq_alreadySubscribed h hlog⟩

end Places

/-- An attempt of a user, for a plan, ends as stored or as refused. -/
theorem obeys_subscribe {user : UserId} {planId : PlanId} (huser : user.isAssigned = true)
    (hplan : planId.isAssigned = true) :
    (subscribe user planId).Obeys (conduct user planId) .pending :=
  (Subscribe.follows user planId).obeys (fun _ _ h _ => ne_stored_of_asks h)
    fun _ _ => ends_of_ends ⟨huser, hplan⟩

end Attempt

end RecurringBilling
