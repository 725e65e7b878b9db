import RecurringBilling.Proofs.Interleaving.Scripts

/-!
# The course of a renewal

A renewal loads its subscription once, and the only write it makes is that of the
subscription as it loaded it, with the end moved by one period.  Between the two the
row may have changed; the renewal does not look again.  It succeeds exactly if the
write goes through.  All this is so where charges are accepted; a renewal whose charge
is declined writes another status instead.
-/

namespace RecurringBilling

open RecurringBilling.Calendar

/-- How far a renewal has come: what it has loaded, and whether it has stored the next period. -/
inductive Renewal where
  | fresh
  | loaded (before : Subscription)
  | stored (before : Subscription)
  deriving DecidableEq

namespace Renewal

/-- How an exchange moves the renewal on. -/
def after : Renewal → Exchange → Renewal
  | .fresh, { request := .findSubscription _, answer := .ok (some s), injected := _ } => .loaded s
  | .loaded s, { request := .updateSubscription _, answer := .ok _, injected := _ } => .stored s
  | st, _ => st

/-- The write of one more period for a subscription as it was loaded. -/
def Extends (plans : PlanStore) (before after : Subscription) : Prop :=
  ∃ plan e now, PlanStore.findById plans before.plan = some plan ∧
    periodEnd? (Renew.nextStart before) plan.terms.interval = some e ∧
    after = { before with endDate := some e, updatedAt := now }

/-- Which requests are in order.  Nothing is asked any more once the next period is stored. -/
def allows (plans : PlanStore) : Renewal → Request → Prop
  | .stored _, _ => False
  | .fresh, .updateSubscription _ => False
  | .loaded before, .updateSubscription s => Extends plans before s
  | .loaded _, .findSubscription _ => False
  | _, _ => True

/-- How a renewal may end. -/
def ends : Renewal → Except BillingError Renewed → Prop
  | st, .ok v => ∃ before, st = .stored before ∧ v.previousEnd = before.endDate
  | st, .error _ => ∀ before, st ≠ .stored before

/-- What a renewal may rely on: plans are found as they are stored, and charges are accepted. -/
def rely (plans : PlanStore) : Exchange → Prop
  | { request := .findPlan id, answer := .ok found, injected := _ } =>
    found = PlanStore.findById plans id
  | { request := .charge _ _, answer, injected := _ } => ∃ r, answer = .ok r
  | _ => True

/-- The conduct of a renewal. -/
def conduct (plans : PlanStore) : Conduct Renewal (Except BillingError Renewed) where
  after := after
  allows := allows plans
  ends := ends
  rely := rely plans

/-- The conduct of renewals, for use cases; the others are no renewals. -/
def ofUseCase (plans : PlanStore) : (u : UseCase) → Conduct Renewal u.Outcome
  | .renew _ => conduct plans
  | _ => { after := fun st _ => st, allows := fun _ _ => True, ends := fun _ _ => True }

/-- The end from which a renewal started that has stored the next period. -/
def previousEnds : Renewal → List (Option Instant)
  | .stored before => [before.endDate]
  | _ => []

variable {plans : PlanStore} {before : Subscription}

theorem previousEnds_of_ne {st : Renewal} (hst : ∀ before, st ≠ .stored before) :
    st.previousEnds = [] := by
  cases st with
  | stored before => exact absurd rfl (hst before)
  | _ => rfl

theorem previousEnds_of_allows {st : Renewal} {r : Request} (hallows : allows plans st r) :
    st.previousEnds = [] := by
  apply previousEnds_of_ne
  intro before hst
  rw [hst] at hallows
  exact hallows.elim

theorem fresh_of_allows_find {st : Renewal} {id : SubscriptionId}
    (h : allows plans st (.findSubscription id)) : st = .fresh := by
  cases st with
  | fresh => rfl
  | loaded before => exact h.elim
  | stored before => exact h.elim

/-- Only a renewal that has loaded a subscription may write, and only that one. -/
theorem loaded_of_allows_update {st : Renewal} {s : Subscription}
    (h : allows plans st (.updateSubscription s)) :
    ∃ before, st = .loaded before ∧ Extends plans before s := by
  cases st with
  | fresh => exact h.elim
  | loaded before => exact ⟨before, rfl, h⟩
  | stored before => exact h.elim

theorem loaded_ne_stored (s : Subscription) : ∀ x, loaded s ≠ stored x :=
  fun _ => Renewal.noConfusion

/-! ## A renewal keeps to its course -/

section Places

variable {id : SubscriptionId} {log : List Exchange} {p : Plan} {nextEnd now : Instant}

theorem of_due (h : Renew.Due id log before p nextEnd) : log.foldl after fresh = loaded before := by
  cases h
  rfl

theorem of_paid {receipt : Receipt} (h : Renew.Paid id log before p nextEnd receipt now) :
    log.foldl after fresh = loaded before := by
  cases h with
  | intro h receipt now i j =>
    rw [List.foldl_concat, List.foldl_concat, of_due h]
    rfl

/-- Where charges are accepted, none has been declined. -/
theorem not_declined {reason : String} (h : Renew.Declined id log before reason now) :
    ¬ ∀ e ∈ log, rely plans e := by
  intro hrely
  obtain ⟨p, f, hcharge⟩ := h.told_charge
  obtain ⟨-, r, hr⟩ := hcharge.rely hrely
  cases hr

/-- The plan that a renewal has found is the stored one. -/
theorem extends_of_paid {receipt : Receipt} (h : Renew.Paid id log before p nextEnd receipt now)
    (hrely : ∀ e ∈ log, rely plans e) :
    Extends plans before { before with endDate := some nextEnd, updatedAt := now } := by
  obtain ⟨_, hplan⟩ := h.told.2.rely hrely
  exact ⟨p, nextEnd, now, Eq.symm hplan, h.periodEnd, rfl⟩

theorem allows_of_renew {r : Request} (h : Renew.Asks id log r)
    (hrely : ∀ e ∈ log, rely plans e) : allows plans (log.foldl after fresh) r := by
  cases h with
  | load => exact trivial
  | plan _ _ i => exact trivial
  | charge h =>
    rw [of_due h]
    exact trivial
  | stampMark h _ i =>
    rw [List.foldl_concat, of_due h]
    exact trivial
  | mark h => exact absurd hrely (not_declined h)
  | stampEnd h receipt i =>
    rw [List.foldl_concat, of_due h]
    exact trivial
  | extend h _ =>
    rw [of_paid h]
    exact extends_of_paid h hrely
  | refundEarly h _ =>
    rw [of_paid h]
    exact trivial
  | refund h _ f i =>
    rw [List.foldl_concat, of_paid h]
    exact trivial

theorem ends_of_renew {a : Except BillingError Renewed} (h : Renew.Ends id log a)
    (hrely : ∀ e ∈ log, rely plans e) : ends (log.foldl after fresh) a := by
  have hdone : ∀ {earlier later : List Exchange}, (∀ e ∈ earlier ++ later, rely plans e) →
      ∀ e ∈ earlier, rely plans e := fun h e he => h e (List.mem_append_left _ he)
  cases h with
  | failed | missing => exact fun _ => Renewal.noConfusion
  | uncharged h _ i =>
    rw [List.foldl_concat, of_due h]
    exact loaded_ne_stored _
  | unmarked h f i => exact absurd (hdone hrely) (not_declined h)
  | declined h i => exact absurd (hdone hrely) (not_declined h)
  | early h _ answer i =>
    rw [List.foldl_concat, of_paid h]
    exact loaded_ne_stored _
  | unsaved h _ f answer i j =>
    rw [List.foldl_concat, List.foldl_concat, of_paid h]
    exact loaded_ne_stored _
  | renewed h _ i =>
    rw [List.foldl_concat, of_paid h]
    exact ⟨_, rfl, rfl⟩
  | _ => exact loaded_ne_stored _

end Places

/-- A renewal keeps to its course. -/
theorem obeys_renew (id : SubscriptionId) : (renew id).Obeys (conduct plans) .fresh :=
  (Renew.follows id).obeys (fun _ _ => allows_of_renew) fun _ _ => ends_of_renew

end Renewal

end RecurringBilling
