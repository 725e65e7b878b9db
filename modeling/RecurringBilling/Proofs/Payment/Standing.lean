import RecurringBilling.Proofs.Interleaving.Scripts
import RecurringBilling.Proofs.Interleaving.Serve

/-!
# Standing

Where a use case stands with the money it has charged: it has charged nothing, it
holds one open charge, it has given that back, or its refund was struck by a fault.
The conduct of the books is that only one who has charged nothing may charge, only
one who holds a charge may ask for a refund of it, success is reported with exactly
the charge that is held, and failure never with a charge in hand.

The use cases that write subscriptions keep to this conduct whatever they are
answered.  What the world does with their requests is not looked at here.
-/

namespace RecurringBilling

open RecurringBilling.Calendar

/-- Where a use case stands with its charge. -/
inductive Standing where
  | untouched
  | holds (r : Receipt)
  | returned (r : Receipt)
  | stranded (r : Receipt)
  deriving DecidableEq

namespace Standing

/-- The charge that the use case has made. -/
def charges : Standing → List Receipt
  | .untouched => []
  | .holds r => [r]
  | .returned r => [r]
  | .stranded r => [r]

/-- The charge that the ledger still has open. -/
def openCharges : Standing → List Receipt
  | .holds r => [r]
  | .stranded r => [r]
  | _ => []

/-- The charge that the ledger has refunded. -/
def refundedCharges : Standing → List Receipt
  | .returned r => [r]
  | _ => []

/-- How an exchange moves the standing. -/
def after : Standing → Exchange → Standing
  | .untouched, { request := .charge _ _, answer := .ok r, injected := _ } => .holds r
  -- a struck refund has no effect, so the charge stays open with nobody to give it back
  | .holds r, { request := .refund _, answer := _, injected := true } => .stranded r
  | .holds r, { request := .refund _, answer := _, injected := false } => .returned r
  | st, _ => st

theorem after_of_not_movesMoney (st : Standing) {e : Exchange}
    (he : e.request.movesMoney = false) : st.after e = st := by
  obtain ⟨request, answer, injected⟩ := e
  cases request with
  | charge => simp [Request.movesMoney] at he
  | refund => simp [Request.movesMoney] at he
  | _ => cases st <;> rfl

/-- Which requests are in order. -/
def allows : Standing → Request → Prop
  | st, .charge _ _ => st = .untouched
  | st, .refund r => st = .holds r
  | _, _ => True

/-- The standing that goes with a receipt in a result. -/
def ofReceipt? : Option Receipt → Standing
  | none => .untouched
  | some r => .holds r

@[simp]
theorem charges_ofReceipt? (receipt : Option Receipt) :
    (ofReceipt? receipt).charges = receipt.toList := by
  cases receipt <;> rfl

/-- How a use case may end. -/
def ends {ε α : Type} (receipt? : α → Option Receipt) : Standing → Except ε α → Prop
  | st, .ok v => st = ofReceipt? (receipt? v)
  | st, .error _ => ∀ r, st ≠ .holds r

/-- The conduct of the books for results that may contain a receipt. -/
def conduct {ε α : Type} (receipt? : α → Option Receipt) : Conduct Standing (Except ε α) where
  after := after
  allows := allows
  ends := ends receipt?

/-- The conduct of the books for use cases. -/
def books (u : UseCase) : Conduct Standing u.Outcome := conduct u.receipt?

/-! ## The use cases keep the books in order -/

/-- A failure without a charge in hand is in order. -/
theorem ends_error {ε α : Type} {receipt? : α → Option Receipt} {st : Standing}
    (h : st.openCharges = [] ∨ ∃ r, st = .stranded r) (e : ε) :
    st.ends receipt? (.error e) := by
  rintro r rfl
  rcases h with h | ⟨_, h⟩
  · exact List.cons_ne_nil r [] h
  · cases h

theorem ends_untouched {ε α : Type} {receipt? : α → Option Receipt} (e : ε) :
    untouched.ends receipt? (.error e) :=
  ends_error (.inl rfl) e

/-- Asked for its refund, a charge is no longer in hand, whether the refund is struck or not. -/
theorem ends_after_refund {ε α : Type} {receipt? : α → Option Receipt} (r : Receipt)
    (answer : Except Failure Unit) (injected : Bool) (e : ε) :
    ((holds r).after ⟨.refund r, answer, injected⟩).ends receipt? (.error e) := by
  cases injected with
  | false => exact ends_error (.inl rfl) e
  | true => exact ends_error (.inr ⟨r, rfl⟩) e

section Changes

variable {α : Type} {id : SubscriptionId}
  {change : Subscription → Instant → Except BillingError Unit × Subscription}
  {result : Subscription → Subscription → α} {log : List Exchange}

theorem allows_of_change {r : Request} (h : ChangeSubscription.Asks id change log r) :
    (log.foldl after untouched).allows r := by
  cases h <;> exact trivial

theorem ends_of_change {receipt? : α → Option Receipt}
    (hresult : ∀ before s, receipt? (result before s) = none) {a : Except BillingError α}
    (h : ChangeSubscription.Ends id change result log a) :
    (log.foldl after untouched).ends receipt? a := by
  cases h with
  | @saved before s now hchange i j k =>
    -- the result has no receipt, so the standing has to be the one without a charge
    show untouched = ofReceipt? (receipt? (result before s))
    rw [hresult]
    rfl
  | _ => exact ends_untouched _

end Changes

section Renew

variable {id : SubscriptionId} {log : List Exchange} {before : Subscription} {p : Plan}
  {nextEnd now : Instant}

theorem of_due (h : Renew.Due id log before p nextEnd) : log.foldl after untouched = untouched := by
  cases h
  rfl

theorem of_declined {reason : String} (h : Renew.Declined id log before reason now) :
    log.foldl after untouched = untouched := by
  cases h with
  | intro h hf now i j =>
    simp only [List.foldl_concat, of_due h]
    rfl

theorem of_paid {receipt : Receipt} (h : Renew.Paid id log before p nextEnd receipt now) :
    log.foldl after untouched = holds receipt := by
  cases h with
  | intro h receipt now i j =>
    simp only [List.foldl_concat, of_due h]
    rfl

theorem allows_of_renew {r : Request} (h : Renew.Asks id log r) :
    (log.foldl after untouched).allows r := by
  cases h with
  | charge h => exact of_due h
  | refundEarly h _ => exact of_paid h
  | refund h _ f i =>
    rw [List.foldl_concat, of_paid h]
    rfl
  | _ => exact trivial

theorem ends_of_renew {a : Except BillingError Renewed} (h : Renew.Ends id log a) :
    (log.foldl after untouched).ends (fun v : Renewed => some v.receipt) a := by
  cases h with
  | uncharged h _ i =>
    rw [List.foldl_concat, of_due h]
    exact ends_untouched _
  | unmarked h _ i =>
    rw [List.foldl_concat, of_declined h]
    exact ends_untouched _
  | declined h i =>
    rw [List.foldl_concat, of_declined h]
    exact ends_untouched _
  | early h _ answer i =>
    rw [List.foldl_concat, of_paid h]
    exact ends_after_refund _ answer i _
  | unsaved h _ f answer i j =>
    rw [List.foldl_concat, List.foldl_concat, of_paid h]
    exact ends_after_refund _ answer j _
  | renewed h _ i =>
    rw [List.foldl_concat, of_paid h]
    rfl
  | _ => exact ends_untouched _

end Renew

section Subscribe

variable {user : UserId} {planId : PlanId} {log : List Exchange} {s : Subscription}

theorem of_drafted {p : Plan} (h : Subscribe.Drafted user planId log s p) :
    log.foldl after untouched = untouched := by
  cases h
  rfl

theorem of_settled {receipt : Option Receipt} (h : Subscribe.Settled user planId log s receipt) :
    log.foldl after untouched = ofReceipt? receipt := by
  cases h with
  | trial h _ => exact of_drafted h
  | charged h _ receipt i =>
    rw [List.foldl_concat, of_drafted h]
    rfl

theorem allows_of_subscribe {r : Request} (h : Subscribe.Asks user planId log r) :
    (log.foldl after untouched).allows r := by
  cases h with
  | charge h _ => exact of_drafted h
  | refund h f i =>
    rw [List.foldl_concat, of_settled h]
    rfl
  | _ => exact trivial

theorem ends_of_subscribe {a : Except BillingError Subscribed}
    (h : Subscribe.Ends user planId log a) :
    (log.foldl after untouched).ends Subscribed.receipt a := by
  cases h with
  | uncharged h _ f i =>
    rw [List.foldl_concat, of_drafted h]
    exact ends_untouched _
  | stored h x i =>
    rw [List.foldl_concat, of_settled h, after_of_not_movesMoney _ rfl]
    rfl
  | unstored h f i =>
    rw [List.foldl_concat, of_settled h, after_of_not_movesMoney _ rfl]
    exact ends_untouched _
  | refunded h f answer i j =>
    rw [List.foldl_concat, List.foldl_concat, of_settled h]
    exact ends_after_refund _ answer j _
  | _ => exact ends_untouched _

end Subscribe

/-- Every use case that writes subscriptions keeps the books in order. -/
theorem obeys_of_isSubscriptionWork {u : UseCase} (hu : u.isSubscriptionWork = true) :
    u.program.Obeys (books u) .untouched := by
  refine u.follows.obeys (fun log r h _ => ?_) fun log a h _ => ?_
  · cases u with
    | subscribe user planId => exact allows_of_subscribe h
    | changeStatus id code => exact allows_of_change h
    | changeAutoRenew id autoRenew => exact allows_of_change h
    | renew id => exact allows_of_renew h
    | _ => simp [UseCase.isSubscriptionWork] at hu
  · cases u with
    | subscribe user planId => exact ends_of_subscribe h
    | changeStatus id code => exact ends_of_change (fun _ _ => rfl) h
    | changeAutoRenew id autoRenew => exact ends_of_change (fun _ _ => rfl) h
    | renew id => exact ends_of_renew h
    | _ => simp [UseCase.isSubscriptionWork] at hu

end Standing

end RecurringBilling
