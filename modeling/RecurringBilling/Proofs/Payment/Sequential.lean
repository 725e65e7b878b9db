import RecurringBilling.Proofs.Payment.Thrift

/-!
# Sequential use

When one use case is carried out after the other and no faults occur, nothing is ever
refunded.  The ledger then holds the charges that the use cases have told, in their order
and numbered from one, and whoever failed has not charged.
-/

namespace RecurringBilling

open RecurringBilling.Calendar

/-! ## Ledgers that have only been charged -/

/-- The ledger accepts charges, has refunded none, and has numbered them one after the other. -/
structure Ledger.InSequence (l : Ledger) : Prop where
  accepting : l.decline = none
  refunds : l.refunds = []
  references : l.receipts.map Receipt.reference =
    (List.range l.accepted).map fun n => Ledger.reference (n + 1)

namespace Ledger.InSequence

variable {l : Ledger}

theorem empty : Ledger.InSequence {} where
  accepting := rfl
  refunds := rfl
  references := rfl

theorem withCharge (h : l.InSequence) (s : Subscription) (p : Plan) (now : Instant) :
    (l.withCharge (l.nextReceipt s p now)).InSequence where
  accepting := h.accepting
  refunds := h.refunds
  references := by
    simp only [Ledger.withCharge, List.map_append, h.references, List.range_succ]
    rfl

/-- The charges are as many as their numbers. -/
theorem length_receipts (h : l.InSequence) : l.receipts.length = l.accepted := by
  simpa using congrArg List.length h.references

end Ledger.InSequence

namespace World

/-- Every request but a refund leaves the ledger in sequence, and an accepted charge at its end. -/
theorem serve_inSequence (sv : Services) {w : World} (h : w.ledger.InSequence) {r : Request}
    (hr : ∀ receipt, r ≠ .refund receipt) :
    (w.serve sv r).2.ledger.InSequence ∧
      (w.serve sv r).2.ledger.receipts =
        w.ledger.receipts ++ (Exchange.charge? ⟨r, (w.serve sv r).1, false⟩).toList := by
  cases r with
  | charge s p =>
    rw [serve_charge_of_accepting sv h.accepting]
    exact ⟨h.withCharge s p w.now, rfl⟩
  | refund receipt => exact absurd rfl (hr receipt)
  | _ =>
    rw [serve_ledger sv w rfl]
    exact ⟨h, (List.append_nil _).symm⟩

/-- A world with the same stores that accepts charges and sees gives these answers. -/
theorem answers_serve (sv : Services) {w : World} (w' : World) (hstores : w'.stores = w.stores)
    (hblind : w'.blind = false) (haccepting : w'.ledger.decline = none) (r : Request) :
    w.Answers { request := r, answer := (w'.serve sv r).1, injected := false } := by
  obtain ⟨hplans, hsubscriptions, -⟩ := stores_eq_iff.mp hstores
  cases r with
  | findSubscription id => simp only [Answers, serve, found, hsubscriptions]
  | findPlan id => simp only [Answers, serve, found, hplans]
  | findActiveSubscription user =>
    simp only [Answers, serve, found, hblind, hsubscriptions]
    rfl
  | createSubscription c => simp only [Answers, serve, written, hsubscriptions]
  | updateSubscription c => simp only [Answers, serve, written, hsubscriptions]
  | charge s p => exact ⟨_, congrArg Prod.fst (serve_charge_of_accepting sv haccepting s p)⟩
  | _ => exact trivial

/-- The stores are tidy, look-ups see them, and the ledger has only been charged. -/
structure Orderly (w : World) : Prop where
  tidy : w.Tidy
  blind : w.blind = false
  ledger : w.ledger.InSequence

/-- A world in which nothing has happened yet. -/
def fresh (now : Instant) : World := { now }

theorem orderly_fresh (now : Instant) : (fresh now).Orderly where
  tidy := tidy_of_empty rfl rfl
  blind := rfl
  ledger := .empty

end World

/-! ## A use case alone -/

/-- The receipts in the result of the use case. -/
def Task.receipts (t : Task) : List Receipt :=
  match t.outcome? with
  | some (.ok value) => (t.useCase.receipt? value).toList
  | _ => []

namespace Scene

/-- The one use case under way is thrifty, and its charges are all that has come to the ledger. -/
structure Frugal (w : World) (s : Scene) : Prop where
  alone : s.Alone w
  obeys : ∀ t ∈ s.tasks, t.Obeys (UseCase.thrifty w) .untouched
  charges : ∀ t ∈ s.tasks, t.charges = t.standing.charges
  blind : s.world.blind = false
  ledger : s.world.ledger.InSequence
  receipts : ∀ t ∈ s.tasks, s.world.ledger.receipts = w.ledger.receipts ++ t.charges

variable {w : World} {s : Scene}

theorem frugal_start (hw : w.Orderly) (u : UseCase) : (start w [u]).Frugal w where
  alone := alone_start w u
  obeys := forall_mem_start w fun u _ => Standing.obeys_thrifty hw.tidy u
  charges := forall_mem_start w fun _ _ => rfl
  blind := hw.blind
  ledger := hw.ledger
  receipts := forall_mem_start w fun _ _ => (List.append_nil _).symm

/-- The world answers the use case as it could rely on, and does not have to refund anything. -/
theorem Frugal.served (h : s.Frugal w) (sv : Services) {turn : Turn} {t : Task} {r : Request}
    {next : r.Answer → Program t.useCase.Outcome} (htask : s.tasks[turn.task]? = some t)
    (hrest : t.rest = .call r next) (halone : (s.served sv turn t r next).Alone w) :
    (s.served sv turn t r next).Frugal w := by
  have ht : t ∈ s.tasks := List.mem_of_getElem? htask
  have hallows : (t.useCase.thrifty w).allows t.standing r := (h.obeys t ht).allows hrest
  have hrefund : ∀ receipt, r ≠ .refund receipt := by
    rintro receipt rfl
    exact hallows
  -- the use case still asks, so it has not written, and the stores are as they were
  have hstores := h.alone.stores_eq ht ((h.alone.obeys t ht).permits hrest).unwritten
  have hanswers := World.answers_serve sv (s.world.facing turn) hstores h.blind
    h.ledger.accepting r
  obtain ⟨hledger, hreceipts⟩ :=
    World.serve_inSequence sv (w := s.world.facing turn) h.ledger hrefund
  refine ⟨halone, ?_, ?_, ?_, hledger, ?_⟩
  · exact forall_mem_set h.obeys ((h.obeys t ht).advance hrest hanswers)
  · refine forall_mem_set h.charges ?_
    rw [Task.charges_advance, Task.standing_advance,
      Standing.charges_after (UseCase.allows_of_thrifty hallows), h.charges t ht]
  · exact (World.serve_blind sv (s.world.facing turn) r).trans h.blind
  · intro x hx
    obtain rfl := h.alone.eq_of_mem_set htask hx
    rw [Task.charges_advance, ← List.append_assoc, ← h.receipts t ht]
    exact hreceipts

theorem Frugal.step (h : s.Frugal w) (sv : Services) {turn : Turn} (hfault : turn.fault = none) :
    (s.step sv turn).Frugal w := by
  have halone := h.alone.step sv turn
  rcases s.step_cases_of_no_fault sv hfault with hidle | ⟨t, r, next, htask, hrest, hserved⟩
  · rw [hidle]
    exact h
  · rw [hserved] at halone ⊢
    exact h.served sv htask hrest halone

/-- Whoever fails has not charged. -/
theorem Frugal.charges_of_error (h : s.Frugal w) {t : Task} (ht : t ∈ s.tasks)
    {e : t.useCase.Error} (herror : t.outcome? = some (.error e)) : t.charges = [] := by
  have hstanding : t.standing = .untouched := (h.obeys t ht).ends herror
  rw [h.charges t ht, hstanding]
  rfl

/-- Whoever succeeds tells its charge, and has made one exactly if it is to pay. -/
theorem Frugal.charges_of_ok (h : s.Frugal w) {t : Task} (ht : t ∈ s.tasks)
    {value : t.useCase.Value} (hok : t.outcome? = some (.ok value)) :
    t.charges = (t.useCase.receipt? value).toList ∧
      ((t.useCase.receipt? value).isSome = true ↔ t.useCase.Pays w.plans) := by
  obtain ⟨hstanding, hpays⟩ := (h.obeys t ht).ends hok
  have hheld : t.standing = .ofReceipt? (t.useCase.receipt? value) := hstanding
  rw [h.charges t ht, hheld, Standing.charges_ofReceipt?]
  exact ⟨rfl, hpays⟩

theorem Frugal.charges_of_isOver (h : s.Frugal w) {t : Task} (ht : t ∈ s.tasks)
    (hover : t.isOver = true) : t.charges = t.receipts := by
  obtain ⟨outcome, houtcome⟩ := Option.isSome_iff_exists.mp hover
  unfold Task.receipts
  cases outcome with
  | error e => simp only [houtcome, h.charges_of_error ht houtcome]
  | ok value => simp only [houtcome, (h.charges_of_ok ht houtcome).1]

end Scene

/-! ## One use case after the other -/

/-- No fault is waiting in any turn of the visit. -/
def Visit.isUndisturbed (v : Visit) : Bool := v.turns.all (·.fault.isNone)

namespace World

/-- No fault disturbs the visits, and in each of them the use case returns. -/
def completes (sv : Services) (w : World) : List Visit → Bool
  | [] => true
  | v :: rest =>
    v.isUndisturbed && (w.visit sv v).isOver && (w.visit sv v).world.completes sv rest

/-- The receipts in the results of visits that follow one another. -/
def receiptsTold (sv : Services) (w : World) : List Visit → List Receipt
  | [] => []
  | v :: rest =>
    (w.visit sv v).tasks.flatMap Task.receipts ++ (w.visit sv v).world.receiptsTold sv rest

variable {w : World} {sv : Services} {v : Visit}

theorem Orderly.frugal_visit (h : w.Orderly) (sv : Services) (hv : v.isUndisturbed = true) :
    (w.visit sv v).Frugal w := by
  refine Scene.run_invariant (Scene.frugal_start h v.useCase) fun s turn hturn hs => ?_
  exact hs.step sv (Option.isNone_iff_eq_none.mp (List.all_eq_true.mp hv turn hturn))

theorem Orderly.visit (h : w.Orderly) (sv : Services) (hv : v.isUndisturbed = true) :
    (w.visit sv v).world.Orderly where
  tidy := ((Scene.tidy_start h.tidy [v.useCase]).run sv v.turns).world
  blind := (h.frugal_visit sv hv).blind
  ledger := (h.frugal_visit sv hv).ledger

/-- A use case that returns adds the receipt that it tells to the ledger, and nothing else. -/
theorem Orderly.receipts_visit (h : w.Orderly) (hv : v.isUndisturbed = true)
    (hover : (w.visit sv v).isOver = true) :
    (w.visit sv v).world.ledger.receipts =
      w.ledger.receipts ++ (w.visit sv v).tasks.flatMap Task.receipts := by
  have hfrugal := h.frugal_visit sv hv
  obtain ⟨t, hone⟩ := List.length_eq_one_iff.mp hfrugal.alone.alone
  have ht : t ∈ (w.visit sv v).tasks := by rw [hone, List.mem_singleton]
  rw [hfrugal.receipts t ht, hone, List.flatMap_singleton,
    hfrugal.charges_of_isOver ht (List.all_eq_true.mp hover t ht)]

theorem Orderly.afterVisits (h : w.Orderly) {visits : List Visit}
    (hvisits : w.completes sv visits = true) :
    (w.afterVisits sv visits).Orderly ∧
      (w.afterVisits sv visits).ledger.receipts =
        w.ledger.receipts ++ w.receiptsTold sv visits := by
  induction visits generalizing w with
  | nil => exact ⟨h, (List.append_nil _).symm⟩
  | cons v rest ih =>
    simp only [completes, Bool.and_eq_true] at hvisits
    obtain ⟨⟨hv, hover⟩, hrest⟩ := hvisits
    obtain ⟨horderly, hreceipts⟩ := ih (h.visit sv hv) hrest
    refine ⟨horderly, hreceipts.trans ?_⟩
    rw [h.receipts_visit hv hover, List.append_assoc]
    rfl

end World

/-- Sequential use never needs a refund.  Whatever use cases are carried out one after the other in
a world in which nothing has happened yet, whatever the clock shows: nothing has been
refunded, and the ledger holds the receipts that the use cases have told, in their order
and numbered from one.  Nor is anything refunded in the course of the next use case.
If it fails, it has not charged, and if it succeeds, it tells its charge, which it has
made if and only if it is a renewal or the plan has no trial. -/
theorem sequential_use_needs_no_refund (sv : Services) (now : Instant) (visits : List Visit)
    (hvisits : (World.fresh now).completes sv visits = true) :
    let w := (World.fresh now).afterVisits sv visits
    w.ledger.refunds = [] ∧
      w.ledger.receipts = (World.fresh now).receiptsTold sv visits ∧
      w.ledger.receipts.map Receipt.reference =
        (List.range w.ledger.receipts.length).map (fun n => Ledger.reference (n + 1)) ∧
      ∀ v : Visit, v.isUndisturbed = true →
        (w.visit sv v).world.ledger.refunds = [] ∧
          (w.visit sv v).tasks.map Task.useCase = [v.useCase] ∧
          ∀ t ∈ (w.visit sv v).tasks,
            (∀ e, t.outcome? = some (.error e) →
              t.charges = [] ∧ (w.visit sv v).world.ledger.receipts = w.ledger.receipts) ∧
            ∀ value, t.outcome? = some (.ok value) →
              t.charges = (t.useCase.receipt? value).toList ∧
                (w.visit sv v).world.ledger.receipts = w.ledger.receipts ++ t.charges ∧
                ((t.useCase.receipt? value).isSome = true ↔ t.useCase.Pays w.plans) := by
  intro w
  obtain ⟨horderly, hreceipts⟩ := (World.orderly_fresh now).afterVisits hvisits
  refine ⟨horderly.ledger.refunds, hreceipts, ?_, ?_⟩
  · rw [horderly.ledger.length_receipts]
    exact horderly.ledger.references
  · intro v hv
    have hfrugal := horderly.frugal_visit sv hv
    refine ⟨hfrugal.ledger.refunds, Scene.run_useCases sv w [v.useCase] v.turns, fun t ht => ?_⟩
    refine ⟨fun e herror => ?_, fun value hok => ?_⟩
    · have hnone := hfrugal.charges_of_error ht herror
      refine ⟨hnone, ?_⟩
      rw [hfrugal.receipts t ht, hnone, List.append_nil]
    · obtain ⟨hcharges, hpays⟩ := hfrugal.charges_of_ok ht hok
      exact ⟨hcharges, hfrugal.receipts t ht, hpays⟩

/-- A user subscribes, fails to subscribe once more, renews, cancels, opens another subscription
with a trial, fails to take the cancelled one up again, and renews the second one: of the
three charges none is refunded. -/
theorem three_charges_without_refund :
    let call (u : UseCase) : Visit := ⟨u, Turn.inOrder .epoch [0, 0, 0, 0, 0, 0]⟩
    let visits : List Visit :=
      [call (.createPlan .basic), call (.createPlan { PlanDraft.basic with trialDays := some 30 }),
        call (.subscribe ⟨7⟩ ⟨1⟩), call (.subscribe ⟨7⟩ ⟨2⟩), call (.renew ⟨1⟩),
        call (.changeStatus ⟨1⟩ "Cancelled"), call (.subscribe ⟨7⟩ ⟨2⟩),
        call (.changeStatus ⟨1⟩ "Active"), call (.renew ⟨2⟩)]
    let w := (World.fresh .epoch).afterVisits Services.lenient visits
    (World.fresh .epoch).completes Services.lenient visits = true ∧
      w.ledger.receipts.length = 3 ∧ w.subscriptions.entries.map (fun e => e.2.status) =
        [.cancelled, .active] ∧ w.ledger.refunds = [] ∧
      w.ledger.receipts = (World.fresh .epoch).receiptsTold Services.lenient visits := by
  intro call visits w
  have hvisits : (World.fresh .epoch).completes Services.lenient visits = true := by
    decide +kernel
  have hthree : w.ledger.receipts.length = 3 ∧
      w.subscriptions.entries.map (fun e => e.2.status) = [.cancelled, .active] := by
    decide +kernel
  obtain ⟨hrefunds, hreceipts, -⟩ :=
    sequential_use_needs_no_refund Services.lenient .epoch visits hvisits
  -- from here on it does not matter which visits these are
  clear_value visits
  exact ⟨hvisits, hthree.1, hthree.2, hrefunds, hreceipts⟩

end RecurringBilling
