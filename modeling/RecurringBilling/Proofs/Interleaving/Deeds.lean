import RecurringBilling.Proofs.Interleaving.Scripts
import RecurringBilling.Proofs.Interleaving.Serve

/-!
# Deeds

The deeds of a use case are what it has loaded, whether its charge was declined, and
whether it has written anything.  Each use case writes once at most and last: once a
write has gone through it asks nothing more.  Whoever writes ends well, except for a
renewal that had to mark its subscription past due.  A subscription is replaced by the
copy that was loaded, changed in one respect only: a change of status changes the status,
a change of renewal the flag, a renewal the end or, after a declined charge, the status.
-/

namespace RecurringBilling

open RecurringBilling.Calendar

/-- The exchange is a write that has gone through. -/
def Exchange.isWrite : Exchange → Bool
  | { request := .createPlan _, answer := .ok _, injected := _ }
  | { request := .createSubscription _, answer := .ok _, injected := _ }
  | { request := .updateSubscription _, answer := .ok _, injected := _ }
  | { request := .createAccount _, answer := .ok _, injected := _ }
  | { request := .updateAccount _, answer := .ok _, injected := _ } => true
  | _ => false

/-- A fault never answers as a write that has gone through. -/
theorem Fault.isWrite_answer {fault : Fault} {r : Request} {answer : r.Answer} {injected : Bool}
    (h : fault.answer? r = some answer) :
    Exchange.isWrite { request := r, answer, injected } = false := by
  cases r with
  | createPlan | createSubscription | updateSubscription | createAccount | updateAccount =>
    obtain ⟨f, -, hf⟩ := Option.map_eq_some_iff.mp h
    rw [← hf]
    rfl
  | _ => rfl

/-- What a use case has done: the subscription it has loaded, the reason for which its charge was
declined, and whether it has written. -/
structure Deeds where
  loaded : Option Subscription := none
  declined : Option String := none
  written : Bool := false
  deriving DecidableEq

/-- The deeds after one more exchange. -/
def Deeds.after (d : Deeds) : Exchange → Deeds
  | { request := .findSubscription _, answer := .ok (some s), injected := _ } =>
    { d with loaded := some s }
  | { request := .charge _ _, answer := .error f, injected := _ } =>
    if f.code = .paymentFailed then { d with declined := some f.message } else d
  | e => { d with written := d.written || e.isWrite }

namespace Deeds

theorem written_after (d : Deeds) (e : Exchange) :
    (d.after e).written = (d.written || e.isWrite) := by
  unfold after
  split
  · simp [Exchange.isWrite]
  · split <;> simp [Exchange.isWrite]
  · rfl

theorem after_of_isWrite {d : Deeds} {e : Exchange} (h : e.isWrite = true) :
    d.after e = { d with written := true } := by
  unfold after
  split
  · cases h
  · cases h
  · rw [h, Bool.or_true]

/-- What has been loaded after an exchange was loaded before it or by it. -/
theorem loaded_after {d : Deeds} {e : Exchange} {s : Subscription}
    (h : (d.after e).loaded = some s) :
    d.loaded = some s ∨ ∃ id injected,
      e = { request := .findSubscription id, answer := .ok (some s), injected } := by
  unfold after at h
  split at h
  · next id x injected =>
    cases h
    exact Or.inr ⟨id, injected, rfl⟩
  · split at h <;> exact Or.inl h
  · exact Or.inl h

end Deeds

/-- What a use case has done so far. -/
def Task.deeds (t : Task) : Deeds := t.log.foldl Deeds.after {}

namespace UseCase

/-- The use case may replace a subscription as it loaded it by another one; a renewal does so
according to whether its charge was declined. -/
def Replaces (declined : Option String) (before after : Subscription) : UseCase → Prop
  | .changeStatus _ code => ∃ now, before.updateStatus code now = (.ok (), after)
  | .changeAutoRenew _ autoRenew => ∃ now, before.setAutoRenew autoRenew now = after
  | .renew _ =>
    match declined with
    | some _ => ∃ now, before.updateStatus SubscriptionStatus.pastDue.code now = (.ok (), after)
    | none => ∃ e now, before.updateEndDate e now = (.ok (), after)
  | _ => False

/-- What a use case replaces differs from what it loaded in one respect, and in the instant of the
last change. -/
theorem Replaces.cases {u : UseCase} {declined : Option String} {before after : Subscription}
    (h : u.Replaces declined before after) :
    (∃ id code status now, u = .changeStatus id code ∧
      SubscriptionStatus.ofCode? code = some status ∧
      after = { before with status, updatedAt := now }) ∨
    (∃ id autoRenew now, u = .changeAutoRenew id autoRenew ∧
      after = { before with autoRenew, updatedAt := now }) ∨
    (∃ id reason now, u = .renew id ∧ declined = some reason ∧
      after = { before with status := .pastDue, updatedAt := now }) ∨
    ∃ id e now, u = .renew id ∧ declined = none ∧
      after = { before with endDate := some e, updatedAt := now } := by
  cases u with
  | changeStatus id code =>
    obtain ⟨now, hnow⟩ := h
    obtain ⟨status, hstatus, hafter⟩ := Subscription.updateStatus_eq_ok_iff.mp hnow
    exact Or.inl ⟨id, code, status, now, rfl, hstatus, hafter⟩
  | changeAutoRenew id autoRenew =>
    obtain ⟨now, hafter⟩ := h
    exact Or.inr (Or.inl ⟨id, autoRenew, now, rfl, hafter.symm⟩)
  | renew id =>
    cases declined with
    | some reason =>
      obtain ⟨now, hnow⟩ := h
      rw [Subscription.updateStatus_code] at hnow
      exact Or.inr (Or.inr (Or.inl ⟨id, reason, now, rfl, rfl, (Prod.mk.inj hnow).2.symm⟩))
    | none =>
      obtain ⟨e, now, hnow⟩ := h
      exact Or.inr (Or.inr (Or.inr
        ⟨id, e, now, rfl, rfl, (Subscription.updateEndDate_eq_ok_iff.mp hnow).2⟩))
  | _ => exact h.elim

/-- The error reports the declined charge of a renewal. -/
def ReportsDecline (reason : String) : (u : UseCase) → u.Error → Prop
  | .renew _, e => e = BillingError.paymentFailed reason
  | _, _ => False

theorem ReportsDecline.eq_renew {reason : String} {u : UseCase} {e : u.Error}
    (h : u.ReportsDecline reason e) : ∃ id, u = .renew id := by
  cases u with
  | renew id => exact ⟨id, rfl⟩
  | _ => exact h.elim

/-- What a use case may ask.  Nothing is asked after a write. -/
def Permits (u : UseCase) (d : Deeds) : Request → Prop
  | .findSubscription id => d.written = false ∧ u.target? = some id
  | .updateSubscription c =>
    d.written = false ∧ ∃ before, d.loaded = some before ∧ u.Replaces d.declined before c
  | .createPlan _ | .createSubscription _ | .createAccount _ | .updateAccount _ =>
    d.written = false ∧ u.target? = none
  | _ => d.written = false

/-- The conduct of writing once and last, for results of any type.  A use case that is about a
subscription has written it when it succeeds. -/
def writing {ε : Type} (u : UseCase) (reports : String → ε → Prop) (α : Type) :
    Conduct Deeds (Except ε α) where
  after := Deeds.after
  allows := u.Permits
  ends
    | d, .ok _ => d.declined = none ∧ (u.target? = none ∨ d.written = true)
    | d, .error e => d.written = true → ∃ reason, d.declined = some reason ∧ reports reason e

/-- The conduct of writing once and last. -/
def writesOnce (u : UseCase) : Conduct Deeds u.Outcome := u.writing u.ReportsDecline u.Value

theorem Permits.unwritten {u : UseCase} {d : Deeds} {r : Request} (h : u.Permits d r) :
    d.written = false := by
  cases r with
  | findSubscription | updateSubscription | createPlan | createSubscription | createAccount |
    updateAccount => exact h.1
  | _ => exact h

end UseCase

namespace Task

theorem deeds_start (u : UseCase) : (start u).deeds = {} := rfl

theorem deeds_advance (t : Task) (r : Request) (next : r.Answer → Program t.useCase.Outcome)
    (answer : r.Answer) (injected : Bool) :
    (t.advance r next answer injected).deeds =
      t.deeds.after { request := r, answer, injected } :=
  stateBy_advance UseCase.writesOnce {} r next answer injected

/-- Who has not written after an answer had not written before it, and the answer was no write. -/
theorem unwritten_of_advance {t : Task} {r : Request}
    {next : r.Answer → Program t.useCase.Outcome} {answer : r.Answer} {injected : Bool}
    (h : (t.advance r next answer injected).deeds.written = false) :
    t.deeds.written = false ∧ Exchange.isWrite { request := r, answer, injected } = false := by
  rw [deeds_advance, Deeds.written_after, Bool.or_eq_false_iff] at h
  exact h

/-- Who has written only after an answer has written by it. -/
theorem isWrite_of_advance {t : Task} {r : Request}
    {next : r.Answer → Program t.useCase.Outcome} {answer : r.Answer} {injected : Bool}
    (hbefore : t.deeds.written = false)
    (h : (t.advance r next answer injected).deeds.written = true) :
    Exchange.isWrite { request := r, answer, injected } = true := by
  rw [deeds_advance, Deeds.written_after, hbefore] at h
  exact h

theorem Obeys.permits {t : Task} {r : Request} {next : r.Answer → Program t.useCase.Outcome}
    (h : t.Obeys UseCase.writesOnce {}) (hrest : t.rest = .call r next) :
    t.useCase.Permits t.deeds r :=
  h.allows hrest

/-- A write of a use case that is about a subscription puts a replacement of the one it has loaded
under its identifier. -/
theorem Obeys.replaces_of_write {t : Task} {r : Request}
    {next : r.Answer → Program t.useCase.Outcome} (h : t.Obeys UseCase.writesOnce {})
    (hrest : t.rest = .call r next) {id : SubscriptionId} (htarget : t.useCase.target? = some id)
    {sv : Services} {w : World} {injected : Bool}
    (hwrite : Exchange.isWrite { request := r, answer := (w.serve sv r).1, injected } = true) :
    ∃ before c, r = .updateSubscription c ∧ t.deeds.loaded = some before ∧
      t.useCase.Replaces t.deeds.declined before c ∧
      (w.serve sv r).2 = { w with subscriptions := w.subscriptions.put c.id.value c } := by
  have hpermits := h.permits hrest
  cases r with
  | updateSubscription c =>
    obtain ⟨-, before, hbefore, hreplaces⟩ := hpermits
    have hok : (w.serve sv (.updateSubscription c)).1 = .ok () := by
      cases hanswer : (w.serve sv (.updateSubscription c)).1 with
      | error f => rw [hanswer] at hwrite; cases hwrite
      | ok _ => rfl
    exact ⟨before, c, rfl, hbefore, hreplaces, World.serve_update_of_ok sv hok⟩
  | createPlan | createSubscription | createAccount | updateAccount =>
    rw [hpermits.2] at htarget
    cases htarget
  | _ => cases hwrite

end Task

/-! ## The use cases write once and last -/

namespace Deeds

open UseCase (writesOnce)

/-- Whoever has not written may end with any error. -/
theorem ends_error {u : UseCase} {ε α : Type} {reports : String → ε → Prop} {d : Deeds}
    (hd : d.written = false) (e : ε) : (u.writing reports α).ends d (.error e) := by
  intro h
  rw [hd] at h
  cases h

theorem after_declined (d : Deeds) (s : Subscription) (p : Plan) {f : Failure}
    (hf : f.code = .paymentFailed) (injected : Bool) :
    d.after { request := .charge s p, answer := .error f, injected } =
      { d with declined := some f.message } :=
  if_pos hf

theorem written_after_charge (d : Deeds) (s : Subscription) (p : Plan) (f : Failure)
    (injected : Bool) :
    (d.after { request := .charge s p, answer := .error f, injected }).written = d.written := by
  rw [after]
  split <;> rfl

/-! ### Changes -/

section Changes

variable {u : UseCase} {id : SubscriptionId}
  {change : Subscription → Instant → Except BillingError Unit × Subscription}
  {log : List Exchange}

theorem permits_of_change (hu : u.target? = some id)
    (hreplaces : ∀ {before after : Subscription} {now : Instant},
      change before now = (.ok (), after) → u.Replaces none before after)
    {r : Request} (h : ChangeSubscription.Asks id change log r) :
    u.Permits (log.foldl after {}) r := by
  cases h with
  | load => exact ⟨rfl, hu⟩
  | stamp before i => exact rfl
  | @save before s now hchange i j => exact ⟨rfl, before, rfl, hreplaces hchange⟩

theorem ends_of_change {α : Type} {reports : String → BillingError → Prop}
    {result : Subscription → Subscription → α} {a : Except BillingError α}
    (h : ChangeSubscription.Ends id change result log a) :
    (u.writing reports α).ends (log.foldl after {}) a := by
  cases h with
  | saved hchange i j k => exact ⟨rfl, Or.inr rfl⟩
  | _ => exact ends_error rfl _

end Changes

/-! ### Renewals -/

section Renew

variable {id : SubscriptionId} {log : List Exchange} {before : Subscription} {p : Plan}
  {nextEnd now : Instant}

theorem of_due (h : Renew.Due id log before p nextEnd) :
    log.foldl after {} = { loaded := some before } := by
  cases h
  rfl

theorem of_declined {reason : String} (h : Renew.Declined id log before reason now) :
    log.foldl after {} = { loaded := some before, declined := some reason } := by
  cases h with
  | intro h hf now i j =>
    rw [List.foldl_concat, List.foldl_concat, of_due h, after_declined _ _ _ hf]
    rfl

theorem of_paid {receipt : Receipt} (h : Renew.Paid id log before p nextEnd receipt now) :
    log.foldl after {} = { loaded := some before } := by
  cases h with
  | intro h receipt now i j =>
    rw [List.foldl_concat, List.foldl_concat, of_due h]
    rfl

theorem permits_of_renew {r : Request} (h : Renew.Asks id log r) :
    (UseCase.renew id).Permits (log.foldl after {}) r := by
  cases h with
  | load => exact ⟨rfl, rfl⟩
  | plan hactive hrenews i => exact rfl
  | charge h =>
    rw [of_due h]
    exact rfl
  | stampMark h hf i =>
    rw [List.foldl_concat, of_due h, after_declined _ _ _ hf]
    exact rfl
  | @mark log before reason now h =>
    rw [of_declined h]
    exact ⟨rfl, before, rfl, now, Subscription.updateStatus_code before .pastDue now⟩
  | stampEnd h receipt i =>
    rw [List.foldl_concat, of_due h]
    exact rfl
  | @extend log before p nextEnd now receipt h hordered =>
    rw [of_paid h]
    exact ⟨rfl, before, rfl, nextEnd, now,
      Subscription.updateEndDate_eq_ok_iff.mpr ⟨hordered, rfl⟩⟩
  | refundEarly h hearly =>
    rw [of_paid h]
    exact rfl
  | refund h hordered f i =>
    rw [List.foldl_concat, of_paid h]
    exact rfl

theorem ends_of_renew {a : Except BillingError Renewed} (h : Renew.Ends id log a) :
    (writesOnce (.renew id)).ends (log.foldl after {}) a := by
  cases h with
  | uncharged h hf i =>
    refine ends_error ?_ _
    rw [List.foldl_concat, written_after_charge, of_due h]
  | unmarked h f i =>
    rw [List.foldl_concat, of_declined h]
    exact ends_error rfl _
  | @declined log before reason now h i =>
    rw [List.foldl_concat, of_declined h]
    -- the one error that is reported after a write
    exact fun _ => ⟨reason, rfl, rfl⟩
  | early h hearly answer i =>
    rw [List.foldl_concat, of_paid h]
    exact ends_error rfl _
  | unsaved h hordered f answer i j =>
    rw [List.foldl_concat, List.foldl_concat, of_paid h]
    exact ends_error rfl _
  | renewed h hordered i =>
    rw [List.foldl_concat, of_paid h]
    exact ⟨rfl, Or.inr rfl⟩
  | _ => exact ends_error rfl _

end Renew

/-! ### Subscribing -/

section Subscribe

variable {user : UserId} {planId : PlanId} {log : List Exchange} {s : Subscription}

theorem of_drafted {p : Plan} (h : Subscribe.Drafted user planId log s p) :
    log.foldl after {} = {} := by
  cases h
  rfl

theorem of_settled {receipt : Option Receipt} (h : Subscribe.Settled user planId log s receipt) :
    log.foldl after {} = {} := by
  cases h with
  | trial h htrial => exact of_drafted h
  | charged h htrial receipt i =>
    rw [List.foldl_concat, of_drafted h]
    rfl

theorem permits_of_subscribe {r : Request} (h : Subscribe.Asks user planId log r) :
    (UseCase.subscribe user planId).Permits (log.foldl after {}) r := by
  cases h with
  | charge h htrial =>
    rw [of_drafted h]
    exact rfl
  | store h =>
    rw [of_settled h]
    exact ⟨rfl, rfl⟩
  | refund h f i =>
    rw [List.foldl_concat, of_settled h]
    exact rfl
  | _ => exact rfl

theorem ends_of_subscribe {a : Except BillingError Subscribed}
    (h : Subscribe.Ends user planId log a) :
    (writesOnce (.subscribe user planId)).ends (log.foldl after {}) a := by
  cases h with
  | uncharged h htrial f i =>
    refine ends_error ?_ _
    rw [List.foldl_concat, written_after_charge, of_drafted h]
  | stored h x i =>
    rw [List.foldl_concat, of_settled h]
    exact ⟨rfl, Or.inl rfl⟩
  | unstored h f i =>
    rw [List.foldl_concat, of_settled h]
    exact ends_error rfl _
  | refunded h f answer i j =>
    rw [List.foldl_concat, List.foldl_concat, of_settled h]
    exact ends_error rfl _
  | _ => exact ends_error rfl _

end Subscribe

/-! ### Accounts -/

section Register

variable {name email password : String} {log : List Exchange}

theorem of_ready {address : Email} {hash : String} {now : Instant}
    (h : Register.Ready name email password log address hash now) : log.foldl after {} = {} := by
  cases h
  rfl

theorem permits_of_register {r : Request} (h : Register.Asks name email password log r) :
    (UseCase.register name email password).Permits (log.foldl after {}) r := by
  cases h with
  | store h hcreate =>
    rw [of_ready h]
    exact ⟨rfl, rfl⟩
  | _ => exact rfl

theorem ends_of_register {a : Except IdentityError UserAccount}
    (h : Register.Ends name email password log a) :
    (writesOnce (.register name email password)).ends (log.foldl after {}) a := by
  cases h with
  | unsound h hcreate =>
    rw [of_ready h]
    exact ends_error rfl _
  | unstored h hcreate f i =>
    rw [List.foldl_concat, of_ready h]
    exact ends_error rfl _
  | stored h hcreate x i =>
    rw [List.foldl_concat, of_ready h]
    exact ⟨rfl, Or.inl rfl⟩
  | _ => exact ends_error rfl _

end Register

/-! ### All use cases -/

theorem permits_of_asks {u : UseCase} {log : List Exchange} {r : Request} (h : u.Asks log r) :
    u.Permits (log.foldl after {}) r := by
  cases u with
  | createPlan draft =>
    cases h with
    | stamp => exact rfl
    | store _ _ => exact ⟨rfl, rfl⟩
  | listPlans =>
    cases h
    exact rfl
  | subscribe user planId => exact permits_of_subscribe h
  | changeStatus id code =>
    refine permits_of_change (u := .changeStatus id code) rfl ?_ h
    exact fun hchange => ⟨_, hchange⟩
  | changeAutoRenew id autoRenew =>
    refine permits_of_change (u := .changeAutoRenew id autoRenew) rfl ?_ h
    exact fun hchange => ⟨_, (Prod.mk.inj hchange).2⟩
  | renew id => exact permits_of_renew h
  | listSubscriptions user =>
    cases h
    exact rfl
  | register name email password => exact permits_of_register h
  | activate user =>
    cases h with
    | save _ _ _ _ => exact ⟨rfl, rfl⟩
    | _ => exact rfl
  | signIn email password => cases h <;> exact rfl

theorem ends_of_ends {u : UseCase} {log : List Exchange} {a : u.Outcome} (h : u.Ends log a) :
    u.writesOnce.ends (log.foldl after {}) a := by
  cases u with
  | createPlan draft =>
    cases h with
    | stored _ _ _ _ => exact ⟨rfl, Or.inl rfl⟩
    | _ => exact ends_error rfl _
  | listPlans =>
    cases h with
    | failed f i => exact ends_error rfl _
    | listed plans i => exact ⟨rfl, Or.inl rfl⟩
  | subscribe user planId => exact ends_of_subscribe h
  | changeStatus id code => exact ends_of_change h
  | changeAutoRenew id autoRenew => exact ends_of_change h
  | renew id => exact ends_of_renew h
  | listSubscriptions user =>
    cases h with
    | listed rows i => exact ⟨rfl, Or.inl rfl⟩
    | _ => exact ends_error rfl _
  | register name email password => exact ends_of_register h
  | activate user =>
    cases h with
    | active _ _ => exact ⟨rfl, Or.inl rfl⟩
    | saved _ _ _ _ _ => exact ⟨rfl, Or.inl rfl⟩
    | _ => exact ends_error rfl _
  | signIn email password =>
    cases h with
    | issued _ _ _ _ _ _ => exact ⟨rfl, Or.inl rfl⟩
    | _ => exact ends_error rfl _

/-- Every use case writes once and last. -/
theorem obeys_writesOnce (u : UseCase) : u.program.Obeys u.writesOnce {} :=
  u.follows.obeys (fun _ _ h _ => permits_of_asks h) fun _ _ h _ => ends_of_ends h

end Deeds

namespace Scene

theorem obeys_writesOnce_start (w : World) (calls : List UseCase) :
    ∀ t ∈ (start w calls).tasks, t.Obeys UseCase.writesOnce {} :=
  forall_mem_start w fun u _ => Deeds.obeys_writesOnce u

theorem obeys_writesOnce_step {sv : Services} {s : Scene} {turn : Turn}
    (hs : ∀ t ∈ s.tasks, t.Obeys UseCase.writesOnce {}) :
    ∀ t ∈ (s.step sv turn).tasks, t.Obeys UseCase.writesOnce {} :=
  step_tasks hs fun _ _ _ _ _ _ hrest _ hobeys => hobeys.advance hrest trivial

end Scene

end RecurringBilling
