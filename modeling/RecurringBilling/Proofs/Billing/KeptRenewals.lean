import RecurringBilling.Proofs.Billing.Extension

/-!
# Kept renewals

A renewal that succeeds keeps its charge, and where nothing fails one that does not
succeed gives it back.  So as many renewal charges are kept as renewals have
succeeded, while the stored end lies that many periods on only if no two of them
started from the same end.
-/

namespace RecurringBilling

open RecurringBilling.Calendar

namespace Scene

/-- The charges of renewals of a subscription that were accepted and not refunded. -/
def keptRenewals (id : SubscriptionId) (s : Scene) : List Receipt :=
  s.tasks.flatMap fun t =>
    if t.useCase = .renew id then
      t.charges.filter fun r => decide (r ∉ s.world.ledger.refunds)
    else []

/-- No fault has answered a request. -/
def Undisturbed (s : Scene) : Prop := ∀ t ∈ s.tasks, ∀ e ∈ t.log, e.injected = false

theorem undisturbed_run (sv : Services) (w : World) (calls : List UseCase) {turns : List Turn}
    (hturns : ∀ turn ∈ turns, turn.fault = none) :
    ((start w calls).run sv turns).Undisturbed := by
  refine run_invariant ?_ ?_
  · exact forall_mem_start w fun u _ => by simp [Task.start]
  · intro s turn hmem hs
    refine step_tasks hs ?_
    intro t _ r next answer injected _ hreply hlog e he
    rcases List.mem_append.mp he with hold | hlast
    · exact hlog e hold
    · have he' : e = { request := r, answer, injected } := by simpa using hlast
      cases hreply with
      | served => rw [he']
      | struck hfault _ =>
        rw [hturns turn hmem] at hfault
        cases hfault

variable {s : Scene} {earlier : Ledger} {id : SubscriptionId}

theorem Undisturbed.refundFailed (h : s.Undisturbed) {t : Task} (ht : t ∈ s.tasks) (r : Receipt) :
    t.refundFailed r = false := by
  rw [Task.refundFailed, List.any_eq_false]
  intro e he
  simp [Exchange.failsRefund, h t ht e he]

/-- A renewal keeps one charge if it has succeeded, and none otherwise. -/
theorem Reconciled.length_kept_of_renewal (h : s.Reconciled earlier) (hundisturbed : s.Undisturbed)
    {t : Task} (ht : t ∈ s.tasks) (hu : t.useCase = .renew id) (hover : t.isOver = true) :
    (t.charges.filter fun r => decide (r ∉ s.world.ledger.refunds)).length =
      (t.previousEnds id).length := by
  obtain ⟨outcome, houtcome⟩ := Option.isSome_iff_exists.mp hover
  cases outcome with
  | ok value =>
    -- the charge of a success is its receipt, and no receipt is refunded
    have hkept : (t.charges.filter fun r => decide (r ∉ s.world.ledger.refunds)) = t.charges := by
      rw [List.filter_eq_self]
      intro r hr
      simpa using (h.open_of_ok ht houtcome hr).2
    rw [hkept, (h.balanced t ht).charges_of_ok houtcome, Task.length_previousEnds_of_ok hu houtcome]
  | error e =>
    -- no fault was there to prevent the refund of a charge that was not kept
    have hkept : (t.charges.filter fun r => decide (r ∉ s.world.ledger.refunds)) = [] := by
      rw [List.filter_eq_nil_iff]
      intro r hr
      have hrefund := (h.refunded_of_error ht houtcome hr (hundisturbed.refundFailed ht r)).1
      simpa using hrefund
    rw [hkept, Task.previousEnds_of_error hu houtcome]
    rfl

theorem Reconciled.length_keptRenewals (h : s.Reconciled earlier) (hundisturbed : s.Undisturbed)
    (hover : ∀ t ∈ s.tasks, t.useCase = .renew id → t.isOver = true) :
    (s.keptRenewals id).length = (s.tasks.flatMap (Task.previousEnds id)).length := by
  rw [keptRenewals, List.length_flatMap, List.length_flatMap]
  congr 1
  apply List.map_congr_left
  intro t ht
  by_cases hu : t.useCase = .renew id
  · rw [if_pos hu]
    exact h.length_kept_of_renewal hundisturbed ht hu (hover t ht hu)
  · rw [if_neg hu, Task.previousEnds_of_other hu]
    rfl

/-- When all renewals of a subscription have returned, its end lies at most as many periods on as
there are kept renewal charges, and exactly as many if and only if no two successful renewals
started from the same end.  The order of the turns is any, and so are the other use cases
beside them that do not work on that subscription. -/
theorem extended_once_per_kept_charge_iff (sv : Services) (w : World)
    (history : List SubscriptionStore.Call)
    (hstore : w.subscriptions = SubscriptionStore.run history) (hledger : w.ledger.Numbered)
    (haccepting : w.ledger.decline = none) (id : SubscriptionId) (row : Subscription) (plan : Plan)
    (e : Instant) (hrow : SubscriptionStore.findById w.subscriptions id = some row)
    (hend : row.endDate = some e) (hplan : PlanStore.findById w.plans row.plan = some plan)
    (calls : List UseCase) (hcalls : ∀ u ∈ calls, u.isSubscriptionWork = true)
    (halone : ∀ u ∈ calls, u.target? = some id → u = .renew id) (turns : List Turn)
    (hturns : ∀ turn ∈ turns, turn.fault = none) :
    let s := (start w calls).run sv turns
    (∀ t ∈ s.tasks, t.useCase = .renew id → t.isOver = true) →
      ∃ after, SubscriptionStore.findById s.world.subscriptions id = some after ∧
        (∃ n, n ≤ (s.keptRenewals id).length ∧
          after.endDate = advance plan.terms.interval n e) ∧
        (after.endDate = advance plan.terms.interval (s.keptRenewals id).length e ↔
          (s.tasks.flatMap (Task.previousEnds id)).Nodup) := by
  intro s hover
  have hw : SubscriptionStore.WellFormed w.subscriptions := by
    rw [hstore]
    exact SubscriptionStore.wellFormed_run history
  obtain ⟨starts, reached, hextending⟩ :=
    (extending_start plan.terms.interval hw hcalls halone haccepting hrow hend).run
      sv hplan hturns
  have hreconciled : s.Reconciled w.ledger := (reconciled_start hledger hcalls).run sv turns
  have hundisturbed : s.Undisturbed := undisturbed_run sv w calls hturns
  rw [hreconciled.length_keptRenewals hundisturbed hover]
  exact hextending.reach

/-! ## Two renewals of one subscription -/

/-- One renewal after the other: two charges, two periods. -/
theorem two_periods_of_two_charges :
    let s := (start World.subscribedKiosk [.renew ⟨1⟩, .renew ⟨1⟩]).run Services.lenient
      (Turn.inOrder .epoch [0, 0, 0, 0, 0, 1, 1, 1, 1, 1])
    (s.keptRenewals ⟨1⟩).length = 2 ∧
      ∃ after, SubscriptionStore.findById s.world.subscriptions ⟨1⟩ = some after ∧
        after.endDate = advance Plan.monthly.terms.interval (s.keptRenewals ⟨1⟩).length .epoch := by
  have hover : ((start World.subscribedKiosk [.renew ⟨1⟩, .renew ⟨1⟩]).run Services.lenient
      (Turn.inOrder .epoch [0, 0, 0, 0, 0, 1, 1, 1, 1, 1])).isOver = true := by decide +kernel
  obtain ⟨after, hafter, -, hiff⟩ := extended_once_per_kept_charge_iff Services.lenient
    World.subscribedKiosk
    [.create { SubscriptionStore.freshActive ⟨7⟩ with endDate := some .epoch }] rfl
    (Ledger.numbered_of_no_charges _ rfl rfl) rfl ⟨1⟩
    { SubscriptionStore.freshActive ⟨7⟩ with id := ⟨1⟩, endDate := some .epoch } Plan.monthly .epoch
    (by decide +kernel) rfl (by decide +kernel)
    [.renew ⟨1⟩, .renew ⟨1⟩] (by decide) (by decide)
    (Turn.inOrder .epoch [0, 0, 0, 0, 0, 1, 1, 1, 1, 1]) (by decide +kernel)
    fun t ht _ => List.all_eq_true.mp hover t ht
  exact ⟨by decide +kernel, after, hafter, hiff.mpr (by decide +kernel)⟩

/-- Two renewals that take turns: two charges, one period.  The store and the ledger are as if the
second renewal had found the row as it was before the first one. -/
theorem one_period_of_two_charges :
    let s := (start World.subscribedKiosk [.renew ⟨1⟩, .renew ⟨1⟩]).run Services.lenient
      (Turn.inOrder .epoch [0, 1, 0, 1, 0, 1, 0, 1, 0, 1])
    let first := ((renew ⟨1⟩).run Services.lenient World.subscribedKiosk).2
    let second := ((renew ⟨1⟩).run Services.lenient
      { first with subscriptions := World.subscribedKiosk.subscriptions }).2
    s.isOver = true ∧ (s.keptRenewals ⟨1⟩).length = 2 ∧
      (SubscriptionStore.findById s.world.subscriptions ⟨1⟩).map (·.endDate) ≠
        some (advance .month 2 .epoch) ∧
      s.world.subscriptions = second.subscriptions ∧ s.world.ledger = second.ledger := by
  refine ⟨?_, ?_, ?_, ?_, ?_⟩ <;> decide +kernel

end Scene

end RecurringBilling
