import RecurringBilling.Proofs.Payment.Pricing

/-!
# Settlement

When use cases that write subscriptions run side by side, in whatever order and with
whatever faults, each charge ends up where the result of its use case says: kept and
in the result, or given back.  The only other charges that stay open are those whose
refund a fault prevented.
-/

namespace RecurringBilling

open RecurringBilling.Calendar

namespace Scene

variable {earlier : Ledger} {s : Scene}

/-- A charge in a result is open and not refunded. -/
theorem Reconciled.open_of_ok (h : s.Reconciled earlier) {t : Task} (ht : t ∈ s.tasks)
    {value : t.useCase.Value} (hok : t.outcome? = some (.ok value)) {r : Receipt}
    (hr : r ∈ t.charges) :
    r ∈ s.world.ledger.receipts ∧ r ∉ s.world.ledger.refunds := by
  have hstanding := (h.balanced t ht).standing_of_ok hok
  have hopen : r ∈ t.standing.openCharges := by
    rw [(h.balanced t ht).charges, hstanding] at hr
    rw [hstanding]
    cases hreceipt : t.useCase.receipt? value with
    | none => simp [hreceipt, Standing.ofReceipt?, Standing.charges] at hr
    | some receipt =>
      simpa [hreceipt, Standing.ofReceipt?, Standing.charges, Standing.openCharges] using hr
  -- what is open is not refunded, as references are distinct
  have hmem := h.mem_receipts_of_holds ht hopen
  exact ⟨hmem, h.numbered.not_mem_refunds hmem⟩

/-- A charge of a use case that failed is refunded and not open, unless a fault kept it from being
given back. -/
theorem Reconciled.refunded_of_error (h : s.Reconciled earlier) {t : Task} (ht : t ∈ s.tasks)
    {e : t.useCase.Error} (herror : t.outcome? = some (.error e)) {r : Receipt}
    (hr : r ∈ t.charges) (hasked : t.refundFailed r = false) :
    r ∈ s.world.ledger.refunds ∧ r ∉ s.world.ledger.receipts := by
  have hbalanced := h.balanced t ht
  have hreturned : r ∈ t.standing.refundedCharges := by
    rw [hbalanced.charges] at hr
    cases hstanding : t.standing with
    | untouched => simp [hstanding, Standing.charges] at hr
    | holds receipt => exact absurd hstanding (hbalanced.standing_of_error herror receipt)
    | returned receipt => simpa [hstanding, Standing.charges, Standing.refundedCharges] using hr
    | stranded receipt =>
      have hreceipt : r = receipt := by simpa [hstanding, Standing.charges] using hr
      have hfailed := (hbalanced.strands r).mpr (by rw [hstanding, hreceipt])
      simp [hasked] at hfailed
  have hmem := h.mem_refunds_of_returned ht hreturned
  exact ⟨hmem, fun hopen => h.numbered.not_mem_refunds hopen hmem⟩

/-- What is open when every use case has returned is what was open before and what the use
cases keep. -/
theorem Reconciled.receipts_of_isOver (h : s.Reconciled earlier) (hover : s.isOver = true) :
    s.world.ledger.receipts.Perm (earlier.receipts ++ s.tasks.flatMap Task.keptCharges) := by
  have hkept : s.tasks.flatMap Task.keptCharges =
      s.tasks.flatMap fun t => t.standing.openCharges := by
    rw [List.flatMap_def, List.flatMap_def]
    -- task by task, since all have returned
    congr 1
    apply List.map_congr_left
    intro t ht
    exact (h.balanced t ht).keptCharges (List.all_eq_true.mp hover t ht)
  rw [hkept]
  exact h.receipts

/-- Whatever the order of the turns and whatever fails: a use case charges at most once, for the
user of its subscription and at the price of the plan; a charge of a success is its receipt, open
and never refunded; a charge of a failure is refunded and no longer open, unless a
fault prevented that; and when all have returned, exactly the receipts of the
successes and the charges whose refund was prevented are open. -/
theorem charges_reconcile (sv : Services) (w : World) (hreceipts : w.ledger.receipts = [])
    (hrefunds : w.ledger.refunds = []) (calls : List UseCase)
    (hcalls : ∀ u ∈ calls, u.isSubscriptionWork = true) (turns : List Turn) :
    let s := (Scene.start w calls).run sv turns
    s.tasks.map Task.useCase = calls ∧
      (∀ t ∈ s.tasks,
        t.charges.length ≤ 1 ∧
        (∀ r ∈ t.charges, t.Billed w.plans r) ∧
        (∀ value, t.outcome? = some (.ok value) →
          t.charges = (t.useCase.receipt? value).toList ∧
            ∀ r ∈ t.charges, r ∈ s.world.ledger.receipts ∧ r ∉ s.world.ledger.refunds) ∧
        (∀ e, t.outcome? = some (.error e) → ∀ r ∈ t.charges, t.refundFailed r = false →
          r ∈ s.world.ledger.refunds ∧ r ∉ s.world.ledger.receipts)) ∧
      (s.isOver = true → s.world.ledger.receipts.Perm (s.tasks.flatMap Task.keptCharges)) := by
  intro s
  have hreconciled : s.Reconciled w.ledger :=
    (reconciled_start (Ledger.numbered_of_no_charges w.ledger hreceipts hrefunds) hcalls).run
      sv turns
  have hpriced : s.Priced w.plans := (priced_start w hcalls).run sv turns
  refine ⟨run_useCases sv w calls turns, ?_, ?_⟩
  · intro t ht
    have hbalanced := hreconciled.balanced t ht
    refine ⟨hbalanced.charges_length_le, ?_, ?_, ?_⟩
    · intro r hr
      exact (hpriced.grounded t ht).billed (hpriced.priced t ht) hr
    · intro value hok
      exact ⟨hbalanced.charges_of_ok hok, fun r hr => hreconciled.open_of_ok ht hok hr⟩
    · intro e herror r hr hasked
      exact hreconciled.refunded_of_error ht herror hr hasked
  · intro hover
    -- nothing was open before
    have hopen := hreconciled.receipts_of_isOver hover
    rwa [hreceipts, List.nil_append] at hopen

/-- One user subscribes twice at the same time, and the refund of the loser is prevented: both
charges stay open. -/
theorem both_charges_open_of_prevented_refund :
    let s := (Scene.start World.kiosk [.subscribe ⟨1⟩ ⟨1⟩, .subscribe ⟨1⟩ ⟨1⟩]).run Services.lenient
      (Turn.inOrder .epoch [0, 1, 0, 1, 0, 1, 0, 1, 0, 1, 0, 1] ++
        [{ task := 1, now := .epoch, fault := some (.fails .refund (Failure.database "gone")) }])
    s.isOver = true ∧ s.world.ledger.receipts.length = 2 ∧
      s.world.ledger.receipts.Perm (s.tasks.flatMap Task.keptCharges) := by
  refine ⟨by decide +kernel, by decide +kernel, ?_⟩
  refine (charges_reconcile _ _ rfl rfl _ ?_ _).2.2 ?_
  · decide
  · decide +kernel

end Scene

end RecurringBilling
