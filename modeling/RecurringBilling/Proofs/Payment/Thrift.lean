import RecurringBilling.Proofs.Billing.Integrity
import RecurringBilling.Proofs.Payment.Reconciliation

/-!
# Thrift

Whoever is alone with tidy stores that it has not written, and whose charge is accepted, does
not charge in vain: a new subscription is charged for only after the look-up has found
the user free, a renewal only for the one active row of its user, and neither write is
then refused.  So a charge is kept, and a use case that fails has not charged.

The stores are those of a given world.  That they are still as they were is what the use
cases rely on here.
-/

namespace RecurringBilling

open RecurringBilling.Calendar

/-- The answers of a world whose stores are left alone and which accepts every charge. -/
def World.Answers (w : World) : Exchange → Prop
  | { request := .findSubscription id, answer, injected := _ } =>
    answer = .ok (SubscriptionStore.findById w.subscriptions id)
  | { request := .findPlan id, answer, injected := _ } =>
    answer = .ok (PlanStore.findById w.plans id)
  | { request := .findActiveSubscription user, answer, injected := _ } =>
    answer = .ok (SubscriptionStore.findActiveByUser w.subscriptions user)
  | { request := .createSubscription s, answer, injected := _ } =>
    answer = (SubscriptionStore.create w.subscriptions s).1
  | { request := .updateSubscription s, answer, injected := _ } =>
    answer = (SubscriptionStore.update w.subscriptions s).1
  | { request := .charge _ _, answer, injected := _ } => ∃ receipt, answer = .ok receipt
  | _ => True

namespace UseCase

/-- The use case costs something if it succeeds. -/
def Pays (plans : PlanStore) : UseCase → Prop
  | .subscribe _ planId => ∃ p, PlanStore.findById plans planId = some p ∧ p.terms.trial = none
  | .renew _ => True
  | _ => False

/-- The conduct of charging once, and of keeping what was charged. -/
def thrifty (w : World) (u : UseCase) : Conduct Standing u.Outcome where
  after := Standing.after
  allows
    | st, .charge _ _ => st = .untouched
    | _, .refund _ => False
    | _, _ => True
  ends
    | st, .ok v => st = .ofReceipt? (u.receipt? v) ∧
      ((u.receipt? v).isSome = true ↔ u.Pays w.plans)
    | st, .error _ => st = .untouched
  rely := w.Answers

/-- Who is thrifty keeps the books in order. -/
theorem allows_of_thrifty {w : World} {u : UseCase} {st : Standing} {r : Request}
    (h : (u.thrifty w).allows st r) : st.allows r := by
  cases r with
  | charge s p => exact h
  | refund receipt => exact False.elim h
  | _ => exact trivial

end UseCase

namespace Standing

open UseCase (thrifty)

variable {w : World}

/-! ## Renewing -/

section Renew

variable {id : SubscriptionId} {log : List Exchange} {before : Subscription} {p : Plan}
  {nextEnd now : Instant} {receipt : Receipt}

/-- What a renewal has loaded is stored. -/
theorem stored_of_told (h : Told log (.findSubscription id) (.ok (some before)))
    (hlog : ∀ e ∈ log, w.Answers e) :
    SubscriptionStore.findById w.subscriptions id = some before := by
  obtain ⟨_, hfound⟩ := h.rely hlog
  exact (Except.ok.inj hfound).symm

/-- The end of a subscription in place can be moved on. -/
theorem not_early_of_paid (hw : w.Tidy) (h : Renew.Paid id log before p nextEnd receipt now)
    (hlog : ∀ e ∈ log, w.Answers e) : nextEnd.isBefore before.startDate = false := by
  have hbefore := stored_of_told h.told.1 hlog
  exact Instant.not_isBefore_of_isBefore
    ((hw.rows id.value before hbefore).isBefore_nextEnd h.periodEnd)

/-- The only active row of a user can be replaced. -/
theorem update_of_paid (hw : w.Tidy) (h : Renew.Paid id log before p nextEnd receipt now)
    (hlog : ∀ e ∈ log, w.Answers e) :
    (SubscriptionStore.update w.subscriptions
      { before with endDate := some nextEnd, updatedAt := now }).1 = .ok () := by
  have hbefore := stored_of_told h.told.1 hlog
  have hnamed := hw.order.subscriptions.named id.value before hbefore
  rw [hw.order.subscriptions.update_of_active hw.oneActive
    (c := { before with endDate := some nextEnd, updatedAt := now }) (x := before)
    (by rw [hnamed]; exact hbefore) h.isActive rfl]

/-- So the write of the next period does not fail. -/
theorem not_refused_of_paid (hw : w.Tidy) (h : Renew.Paid id log before p nextEnd receipt now)
    {f : Failure} {i : Bool} {later : List Exchange} :
    ¬ ∀ e ∈ log ++ ⟨.updateSubscription { before with endDate := some nextEnd, updatedAt := now },
      .error f, i⟩ :: later, w.Answers e := by
  intro hlog
  have hanswer := hlog _ (List.mem_append_right _ List.mem_cons_self)
  have hok := update_of_paid hw h fun e he => hlog e (List.mem_append_left _ he)
  have hfailed := Eq.trans hanswer hok
  cases hfailed

theorem thrifty_allows_of_renew (hw : w.Tidy) {r : Request} (h : Renew.Asks id log r)
    (hlog : ∀ e ∈ log, w.Answers e) :
    (thrifty w (.renew id)).allows (log.foldl after untouched) r := by
  cases h with
  | charge h => exact of_due h
  | refundEarly h hearly =>
    rw [not_early_of_paid hw h hlog] at hearly
    cases hearly
  | refund h _ f i => exact absurd hlog (not_refused_of_paid hw h)
  | _ => exact trivial

theorem thrifty_ends_of_renew (hw : w.Tidy) {a : Except BillingError Renewed}
    (h : Renew.Ends id log a) (hlog : ∀ e ∈ log, w.Answers e) :
    (thrifty w (.renew id)).ends (log.foldl after untouched) a := by
  cases h with
  | uncharged h _ i =>
    rw [List.foldl_concat, of_due h]
    exact rfl
  | unmarked h f i =>
    rw [List.foldl_concat, of_declined h]
    exact rfl
  | declined h i =>
    rw [List.foldl_concat, of_declined h]
    exact rfl
  | early h hearly answer i =>
    rw [not_early_of_paid hw h fun e he => hlog e (List.mem_append_left _ he)] at hearly
    cases hearly
  | unsaved h _ f answer i j =>
    rw [List.append_assoc] at hlog
    exact absurd hlog (not_refused_of_paid hw h)
  | renewed h _ i =>
    rw [List.foldl_concat, of_paid h]
    exact ⟨rfl, iff_of_true rfl trivial⟩
  | _ => exact rfl

end Renew

/-! ## Subscribing -/

section Subscribe

variable {user : UserId} {planId : PlanId} {log : List Exchange} {s : Subscription}
  {receipt : Option Receipt}

/-- A new subscription of a user who is free is stored. -/
theorem create_of_settled (hw : w.Tidy) (h : Subscribe.Settled user planId log s receipt)
    (hlog : ∀ e ∈ log, w.Answers e) :
    (SubscriptionStore.create w.subscriptions s).1 =
      .ok (s.withId ⟨w.subscriptions.lastId + 1⟩) := by
  obtain ⟨earlier, later, p, rfl, hdrafted, -⟩ := h.drafted
  obtain ⟨hid, hactive, huser, -, -⟩ := hdrafted.covers
  obtain ⟨_, hlooked⟩ := (hdrafted.told.2.append later).rely hlog
  have hfree : SubscriptionStore.findActiveByUser w.subscriptions s.user = none := by
    rw [huser]
    exact (Except.ok.inj hlooked).symm
  rw [hw.order.subscriptions.create_of_free hid hactive hfree]

theorem not_refused_of_settled (hw : w.Tidy) (h : Subscribe.Settled user planId log s receipt)
    {f : Failure} {i : Bool} {later : List Exchange} :
    ¬ ∀ e ∈ log ++ ⟨.createSubscription s, .error f, i⟩ :: later, w.Answers e := by
  intro hlog
  have hanswer := hlog _ (List.mem_append_right _ List.mem_cons_self)
  have hok := create_of_settled hw h fun e he => hlog e (List.mem_append_left _ he)
  have hfailed := Eq.trans hanswer hok
  cases hfailed

/-- A subscriber has paid exactly if the plan is one that costs something at once. -/
theorem pays_iff_of_settled (h : Subscribe.Settled user planId log s receipt)
    (hlog : ∀ e ∈ log, w.Answers e) :
    receipt.isSome = true ↔ (UseCase.subscribe user planId).Pays w.plans := by
  obtain ⟨earlier, later, p, rfl, hdrafted, hpays⟩ := h.drafted
  obtain ⟨_, hfound⟩ := (hdrafted.told.1.append later).rely hlog
  have hplan : PlanStore.findById w.plans planId = some p := (Except.ok.inj hfound).symm
  rw [hpays]
  simp [UseCase.Pays, hplan]

theorem thrifty_allows_of_subscribe (hw : w.Tidy) {r : Request}
    (h : Subscribe.Asks user planId log r) (hlog : ∀ e ∈ log, w.Answers e) :
    (thrifty w (.subscribe user planId)).allows (log.foldl after untouched) r := by
  cases h with
  | charge h _ => exact of_drafted h
  | refund h f i => exact absurd hlog (not_refused_of_settled hw h)
  | _ => exact trivial

theorem thrifty_ends_of_subscribe (hw : w.Tidy) {a : Except BillingError Subscribed}
    (h : Subscribe.Ends user planId log a) (hlog : ∀ e ∈ log, w.Answers e) :
    (thrifty w (.subscribe user planId)).ends (log.foldl after untouched) a := by
  cases h with
  | uncharged h _ f i =>
    rw [List.foldl_concat, of_drafted h]
    exact rfl
  | stored h x i =>
    rw [List.foldl_concat, of_settled h, after_of_not_movesMoney _ rfl]
    exact ⟨rfl, pays_iff_of_settled h fun e he => hlog e (List.mem_append_left _ he)⟩
  | unstored h f i => exact absurd hlog (not_refused_of_settled hw h)
  | refunded h f answer i j =>
    rw [List.append_assoc] at hlog
    exact absurd hlog (not_refused_of_settled hw h)
  | _ => exact rfl

end Subscribe

/-! ## The use cases that cost nothing -/

/-- Who never has grounds to charge is thrifty. -/
theorem thrifty_of_not_bills {u : UseCase} (hu : u.bills = false) :
    u.program.Obeys (thrifty w u) .untouched := by
  refine (Findings.obeys_warranted u).inStep (R := fun _ st => st = .untouched) ?_ ?_ ?_ ?_ rfl
  · rintro f st r rfl hwarrants
    cases r with
    | charge s p => exact rfl
    | refund receipt =>
      have hbills : u.bills = true := hwarrants
      rw [hu] at hbills
      cases hbills
    | _ => exact trivial
  · exact fun _ _ => trivial
  · rintro f st ⟨request, answer, injected⟩ rfl hwarrants
    cases request with
    | charge s p =>
      cases u with
      | subscribe | renew => cases hu
      | _ => exact False.elim hwarrants
    | _ => rfl
  · rintro f st (e | v) rfl -
    · exact rfl
    · cases u with
      | subscribe | renew => cases hu
      | _ => exact ⟨rfl, iff_of_false Bool.false_ne_true id⟩

/-- Every use case is thrifty where the stores are tidy. -/
theorem obeys_thrifty (hw : w.Tidy) (u : UseCase) : u.program.Obeys (thrifty w u) .untouched := by
  cases hu : u.bills with
  | false => exact thrifty_of_not_bills hu
  | true =>
    cases u with
    | subscribe user planId =>
      exact (Subscribe.follows user planId).obeys (fun _ _ => thrifty_allows_of_subscribe hw)
        fun _ _ => thrifty_ends_of_subscribe hw
    | renew id =>
      exact (Renew.follows id).obeys (fun _ _ => thrifty_allows_of_renew hw)
        fun _ _ => thrifty_ends_of_renew hw
    | _ => cases hu

end Standing

end RecurringBilling
