import RecurringBilling.Proofs.Interleaving.Serve
import RecurringBilling.Proofs.Payment.Numbering
import RecurringBilling.Proofs.Payment.Standing

/-!
# Reconciliation

The log of a use case says what it charged and whether its refund was struck by a
fault.  As long as every use case keeps the books in order, the log agrees with the
standing, and the ledger agrees with all the standings together: a charge is open
exactly when some use case holds it or could not give it back.  This is what one
turn preserves, whoever's turn it is.
-/

namespace RecurringBilling

namespace Exchange

/-- The receipt of an accepted charge. -/
def charge? : Exchange → Option Receipt
  | { request := .charge _ _, answer := .ok r, injected := _ } => some r
  | _ => none

/-- A fault kept the refund of a charge from being made. -/
def failsRefund (r : Receipt) (e : Exchange) : Bool :=
  e.injected && decide (e.request = .refund r)

end Exchange

namespace Standing

theorem charges_after {st : Standing} {e : Exchange} (hallows : st.allows e.request) :
    (st.after e).charges = st.charges ++ e.charge?.toList := by
  obtain ⟨request, answer, injected⟩ := e
  cases request with
  | charge s p =>
    -- only one who has charged nothing charges, and an accepted charge is then the first
    have huntouched : st = .untouched := hallows
    subst huntouched
    cases answer <;> rfl
  | refund r =>
    have hholds : st = .holds r := hallows
    subst hholds
    cases injected <;> rfl
  | _ => cases st <;> simp [after, Exchange.charge?]

theorem after_eq_stranded_iff {st : Standing} {e : Exchange} (hallows : st.allows e.request)
    (r : Receipt) : st.after e = .stranded r ↔ st = .stranded r ∨ e.failsRefund r = true := by
  obtain ⟨request, answer, injected⟩ := e
  cases request with
  | charge s p =>
    have huntouched : st = .untouched := hallows
    subst huntouched
    cases answer <;> simp [after, Exchange.failsRefund]
  | refund receipt =>
    have hholds : st = .holds receipt := hallows
    subst hholds
    cases injected <;> simp [after, Exchange.failsRefund]
  | _ => cases st <;> simp [after, Exchange.failsRefund]

end Standing

namespace Task

/-! ## The log of a use case -/

/-- The accepted charges of a use case. -/
def charges (t : Task) : List Receipt := t.log.filterMap Exchange.charge?

/-- A fault kept the use case from giving the charge back. -/
def refundFailed (t : Task) (r : Receipt) : Bool := t.log.any (Exchange.failsRefund r)

/-- The charges that a use case that has returned leaves open: the receipt of its result, or the
charge that it failed to give back. -/
def keptCharges (t : Task) : List Receipt :=
  match t.outcome? with
  | none => []
  | some (.ok value) => (t.useCase.receipt? value).toList
  | some (.error _) => t.charges.filter t.refundFailed

/-- Where the use case stands with its charge. -/
def standing (t : Task) : Standing := t.stateBy Standing.books .untouched

/-- The use case keeps the books in order, and its log agrees with its standing. -/
structure Balanced (t : Task) : Prop where
  obeys : t.Obeys Standing.books .untouched
  charges : t.charges = t.standing.charges
  strands : ∀ r, t.refundFailed r = true ↔ t.standing = .stranded r

theorem balanced_start {u : UseCase} (hu : u.isSubscriptionWork = true) :
    (start u).Balanced where
  obeys := Standing.obeys_of_isSubscriptionWork hu
  charges := rfl
  strands := by
    intro r
    simp [refundFailed, start, standing, stateBy]

section Advance

variable {t : Task} {r : Request} {next : r.Answer → Program t.useCase.Outcome}

theorem standing_advance (answer : r.Answer) (injected : Bool) :
    (t.advance r next answer injected).standing =
      t.standing.after { request := r, answer, injected } :=
  stateBy_advance Standing.books .untouched r next answer injected

theorem charges_advance (answer : r.Answer) (injected : Bool) :
    (t.advance r next answer injected).charges =
      t.charges ++ (Exchange.charge? { request := r, answer, injected }).toList := by
  cases hcharge : Exchange.charge? { request := r, answer, injected } <;>
    simp [Task.charges, hcharge]

theorem Balanced.allows (h : t.Balanced) (hrest : t.rest = .call r next) : t.standing.allows r :=
  h.obeys.allows hrest

theorem Balanced.advance (h : t.Balanced) (hrest : t.rest = .call r next) (answer : r.Answer)
    (injected : Bool) : (t.advance r next answer injected).Balanced := by
  have hallows : t.standing.allows r := h.allows hrest
  constructor
  · exact h.obeys.advance hrest trivial
  · rw [standing_advance, Standing.charges_after hallows, charges_advance, h.charges]
  · intro receipt
    rw [standing_advance, Standing.after_eq_stranded_iff hallows, ← h.strands]
    simp [refundFailed]

end Advance

section Outcome

variable {t : Task}

theorem Balanced.standing_of_ok (h : t.Balanced) {value : t.useCase.Value}
    (hok : t.outcome? = some (.ok value)) :
    t.standing = Standing.ofReceipt? (t.useCase.receipt? value) := h.obeys.ends hok

theorem Balanced.standing_of_error (h : t.Balanced) {e : t.useCase.Error}
    (herror : t.outcome? = some (.error e)) (r : Receipt) : t.standing ≠ .holds r :=
  h.obeys.ends herror r

theorem Balanced.charges_of_ok (h : t.Balanced) {value : t.useCase.Value}
    (hok : t.outcome? = some (.ok value)) : t.charges = (t.useCase.receipt? value).toList := by
  rw [h.charges, h.standing_of_ok hok, Standing.charges_ofReceipt?]

theorem Balanced.charges_length_le (h : t.Balanced) : t.charges.length ≤ 1 := by
  rw [h.charges]
  cases t.standing <;> simp [Standing.charges]

/-- What a use case leaves open when it has returned is what its standing has open. -/
theorem Balanced.keptCharges (h : t.Balanced) (hover : t.isOver = true) :
    t.keptCharges = t.standing.openCharges := by
  obtain ⟨outcome, houtcome⟩ := Option.isSome_iff_exists.mp hover
  cases outcome with
  | ok value =>
    simp only [Task.keptCharges, houtcome, h.standing_of_ok houtcome]
    cases t.useCase.receipt? value <;> rfl
  | error e =>
    simp only [Task.keptCharges, houtcome, h.charges]
    -- of the standings without a charge in hand only a stranded one leaves a charge open
    have hstrands : ∀ r, t.refundFailed r = true ↔ t.standing = .stranded r := h.strands
    cases hstanding : t.standing with
    | untouched => rfl
    | holds r => exact absurd hstanding (h.standing_of_error houtcome r)
    | returned r =>
      have hnot : ¬t.refundFailed r = true := by simp [hstrands, hstanding]
      simp [Standing.charges, Standing.openCharges, hnot]
    | stranded r =>
      have hfailed : t.refundFailed r = true := by simp [hstrands, hstanding]
      simp [Standing.charges, Standing.openCharges, hfailed]

end Outcome

end Task

/-! ## The ledger and the use cases together -/

namespace Scene

/-- The use cases keep the books in order, and beyond the charges of an earlier ledger the open
charges are those that the use cases hold or could not give back, the refunded ones
those that they gave back. -/
structure Reconciled (earlier : Ledger) (s : Scene) : Prop where
  numbered : s.world.ledger.Numbered
  balanced : ∀ t ∈ s.tasks, t.Balanced
  receipts : s.world.ledger.receipts.Perm
    (earlier.receipts ++ s.tasks.flatMap fun t => t.standing.openCharges)
  refunds : s.world.ledger.refunds.Perm
    (earlier.refunds ++ s.tasks.flatMap fun t => t.standing.refundedCharges)

theorem reconciled_start {w : World} (hnumbered : w.ledger.Numbered) {calls : List UseCase}
    (hcalls : ∀ u ∈ calls, u.isSubscriptionWork = true) :
    (Scene.start w calls).Reconciled w.ledger where
  numbered := hnumbered
  balanced := forall_mem_start w fun u hu => Task.balanced_start (hcalls u hu)
  receipts := by
    rw [flatMap_start w calls (fun _ => rfl), List.append_nil]
    exact List.Perm.refl _
  refunds := by
    rw [flatMap_start w calls (fun _ => rfl), List.append_nil]
    exact List.Perm.refl _

variable {earlier : Ledger} {s : Scene}

/-- One task and the ledger change together. -/
theorem Reconciled.replace (h : s.Reconciled earlier) {i : Nat} {t t' : Task} {w : World}
    (htask : s.tasks[i]? = some t) (hbalanced : t'.Balanced) (hnumbered : w.ledger.Numbered)
    (hreceipts : (w.ledger.receipts ++ t.standing.openCharges).Perm
      (s.world.ledger.receipts ++ t'.standing.openCharges))
    (hrefunds : (w.ledger.refunds ++ t.standing.refundedCharges).Perm
      (s.world.ledger.refunds ++ t'.standing.refundedCharges)) :
    Reconciled earlier { world := w, tasks := s.tasks.set i t' } := by
  have hmove : ∀ (f : Task → List Receipt) (new old base : List Receipt),
      (new ++ f t).Perm (old ++ f t') → old.Perm (base ++ s.tasks.flatMap f) →
        new.Perm (base ++ (s.tasks.set i t').flatMap f) := by
    intro f new old base hnew hold
    have hset := (perm_flatMap_set htask f t').append_left base
    rw [← List.append_assoc, ← List.append_assoc] at hset
    -- what the task contributed before cancels on both sides
    exact (List.perm_append_right_iff (f t)).mp
      (hnew.trans ((hold.append_right (f t')).trans hset.symm))
  constructor
  · exact hnumbered
  · exact forall_mem_set h.balanced hbalanced
  · exact hmove _ _ _ _ hreceipts h.receipts
  · exact hmove _ _ _ _ hrefunds h.refunds

/-- One task changes and the ledger does not. -/
theorem Reconciled.replace_idle (h : s.Reconciled earlier) {i : Nat} {t t' : Task} {w : World}
    (htask : s.tasks[i]? = some t) (hbalanced : t'.Balanced) (hledger : w.ledger = s.world.ledger)
    (hopen : t'.standing.openCharges = t.standing.openCharges)
    (hrefunded : t'.standing.refundedCharges = t.standing.refundedCharges) :
    Reconciled earlier { world := w, tasks := s.tasks.set i t' } := by
  apply h.replace htask hbalanced
  · rw [hledger]
    exact h.numbered
  · rw [hledger, hopen]
  · rw [hledger, hrefunded]

/-- A charge that a use case holds is open. -/
theorem Reconciled.mem_receipts_of_holds (h : s.Reconciled earlier) {t : Task} (ht : t ∈ s.tasks)
    {r : Receipt} (hr : r ∈ t.standing.openCharges) : r ∈ s.world.ledger.receipts :=
  h.receipts.mem_iff.mpr (List.mem_append_right _ (List.mem_flatMap.mpr ⟨t, ht, hr⟩))

theorem Reconciled.mem_refunds_of_returned (h : s.Reconciled earlier) {t : Task} (ht : t ∈ s.tasks)
    {r : Receipt} (hr : r ∈ t.standing.refundedCharges) : r ∈ s.world.ledger.refunds :=
  h.refunds.mem_iff.mpr (List.mem_append_right _ (List.mem_flatMap.mpr ⟨t, ht, hr⟩))

section Step

variable {turn : Turn} {t : Task} {r : Request} {next : r.Answer → Program t.useCase.Outcome}

/-- An exchange that is not about money moves neither the standing nor the ledger. -/
theorem Reconciled.replace_quiet (h : s.Reconciled earlier) {w : World} {answer : r.Answer}
    {injected : Bool} (htask : s.tasks[turn.task]? = some t) (hrest : t.rest = .call r next)
    (hmoney : r.movesMoney = false) (hledger : w.ledger = s.world.ledger) :
    Reconciled earlier
      { world := w, tasks := s.tasks.set turn.task (t.advance r next answer injected) } := by
  have hbalanced :=
    (h.balanced t (List.mem_of_getElem? htask)).advance hrest answer injected
  have hsame := t.standing.after_of_not_movesMoney (e := { request := r, answer, injected }) hmoney
  refine h.replace_idle htask hbalanced hledger ?_ ?_
  · rw [Task.standing_advance, hsame]
  · rw [Task.standing_advance, hsame]

/-- A declined charge leaves everything as it was, an accepted one is open and in hand. -/
theorem Reconciled.served_charge (h : s.Reconciled earlier) (sv : Services) {sub : Subscription}
    {plan : Plan} {next : (Request.charge sub plan).Answer → Program t.useCase.Outcome}
    (htask : s.tasks[turn.task]? = some t) (hrest : t.rest = .call (.charge sub plan) next) :
    (s.served sv turn t (.charge sub plan) next).Reconciled earlier := by
  have ht : t ∈ s.tasks := List.mem_of_getElem? htask
  have huntouched : t.standing = .untouched := (h.balanced t ht).allows hrest
  have hbalanced := (h.balanced t ht).advance hrest
    ((s.world.facing turn).serve sv (.charge sub plan)).1 false
  cases hdecline : s.world.ledger.decline with
  | some reason =>
    have hserve := World.serve_charge_of_declining sv (w := s.world.facing turn) hdecline sub plan
    refine h.replace_idle htask hbalanced ?_ ?_ ?_
    · rw [hserve]
      rfl
    · rw [Task.standing_advance, hserve, huntouched]
      rfl
    · rw [Task.standing_advance, hserve, huntouched]
      rfl
  | none =>
    have hserve := World.serve_charge_of_accepting sv (w := s.world.facing turn) hdecline sub plan
    refine h.replace htask hbalanced ?_ ?_ ?_
    · rw [hserve]
      exact h.numbered.withCharge sub plan turn.now
    · rw [Task.standing_advance, hserve, huntouched]
      simp [Ledger.withCharge, Standing.after, Standing.openCharges]
    · rw [Task.standing_advance, hserve, huntouched]
      simp [Ledger.withCharge, Standing.after, Standing.refundedCharges]

/-- The charge in hand is open, so the ledger finds it and moves it to the refunded ones. -/
theorem Reconciled.served_refund (h : s.Reconciled earlier) (sv : Services) {receipt : Receipt}
    {next : (Request.refund receipt).Answer → Program t.useCase.Outcome}
    (htask : s.tasks[turn.task]? = some t) (hrest : t.rest = .call (.refund receipt) next) :
    (s.served sv turn t (.refund receipt) next).Reconciled earlier := by
  have ht : t ∈ s.tasks := List.mem_of_getElem? htask
  have hholds : t.standing = .holds receipt := (h.balanced t ht).allows hrest
  have hbalanced := (h.balanced t ht).advance hrest
    ((s.world.facing turn).serve sv (.refund receipt)).1 false
  have hopen : receipt ∈ s.world.ledger.receipts :=
    h.mem_receipts_of_holds ht (by simp [hholds, Standing.openCharges])
  obtain ⟨before, after, hsplit, hrefund⟩ := h.numbered.refund_of_mem hopen rfl
  have hserve : (s.world.facing turn).serve sv (.refund receipt) =
      (.ok (), { s.world.facing turn with
        ledger :=
          { s.world.ledger with
            receipts := before ++ after
            refunds := s.world.ledger.refunds ++ [receipt] } }) := by
    simp [World.serve, World.written, hrefund]
  refine h.replace htask hbalanced ?_ ?_ ?_
  · rw [hserve]
    exact h.numbered.refunded hsplit
  · rw [Task.standing_advance, hserve, hholds, hsplit]
    show (before ++ after ++ [receipt]).Perm (before ++ receipt :: after ++ [])
    rw [List.append_nil]
    exact (List.perm_append_singleton receipt _).trans List.perm_middle.symm
  · rw [Task.standing_advance, hserve, hholds]
    simp [Standing.after, Standing.refundedCharges]

theorem Reconciled.served (h : s.Reconciled earlier) (sv : Services)
    (htask : s.tasks[turn.task]? = some t) (hrest : t.rest = .call r next) :
    (s.served sv turn t r next).Reconciled earlier := by
  by_cases hmoney : r.movesMoney = false
  · exact h.replace_quiet htask hrest hmoney
      (World.serve_ledger sv (s.world.facing turn) hmoney)
  · cases r with
    | charge sub plan => exact h.served_charge sv htask hrest
    | refund receipt => exact h.served_refund sv htask hrest
    | _ => simp [Request.movesMoney] at hmoney

theorem Reconciled.struck (h : s.Reconciled earlier) {fault : Fault} {answer : r.Answer}
    (htask : s.tasks[turn.task]? = some t) (hrest : t.rest = .call r next)
    (hanswer : fault.answer? r = some answer) :
    (s.struck turn t r next answer).Reconciled earlier := by
  have ht : t ∈ s.tasks := List.mem_of_getElem? htask
  have hallows : t.standing.allows r := (h.balanced t ht).allows hrest
  have hbalanced := (h.balanced t ht).advance hrest answer true
  cases r with
  | charge sub plan =>
    -- a fault never accepts a charge
    obtain ⟨f, -, rfl⟩ := Option.map_eq_some_iff.mp hanswer
    have huntouched : t.standing = .untouched := hallows
    refine h.replace_idle htask hbalanced rfl ?_ ?_
    · rw [Task.standing_advance, huntouched]
      rfl
    · rw [Task.standing_advance, huntouched]
      rfl
  | refund receipt =>
    -- the charge stays open, but nobody will give it back any more
    have hholds : t.standing = .holds receipt := hallows
    refine h.replace_idle htask hbalanced rfl ?_ ?_
    · rw [Task.standing_advance, hholds]
      rfl
    · rw [Task.standing_advance, hholds]
      rfl
  | _ => exact h.replace_quiet htask hrest rfl rfl

end Step

theorem Reconciled.step (h : s.Reconciled earlier) (sv : Services) (turn : Turn) :
    (s.step sv turn).Reconciled earlier := by
  rcases s.step_cases sv turn with hidle | ⟨t, r, next, htask, hrest, hserved | hstruck⟩
  · rw [hidle]
    exact h
  · rw [hserved]
    exact h.served sv htask hrest
  · obtain ⟨fault, answer, -, hanswer, hstep⟩ := hstruck
    rw [hstep]
    exact h.struck htask hrest hanswer

theorem Reconciled.run (h : s.Reconciled earlier) (sv : Services) (turns : List Turn) :
    (s.run sv turns).Reconciled earlier :=
  run_invariant h fun _ turn _ hs => hs.step sv turn

end Scene

end RecurringBilling
