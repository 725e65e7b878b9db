import RecurringBilling.Proofs.Interleaving.Scripts
import RecurringBilling.Proofs.Plan.Terms
import RecurringBilling.Proofs.Subscription.Stamps

/-!
# Findings

What a use case finds decides what it may do.  It finds the subscription it loads, the
plan it looks up and the instant at which the clock stood when it first looked.  A
subscription is opened for a plan that was found and for the period that begins at that
instant; a renewal is for one more period of what was loaded; whatever is replaced keeps
its user, its plan and its start.  Of the errors, three tell what was found: that the end
comes before the start, that there is no such plan, and that the next period ends outside
the calendar.

All ten use cases keep to this, whatever they are answered.
-/

namespace RecurringBilling

open RecurringBilling.Calendar

/-! ## Errors that tell what was found -/

namespace BillingError

/-- The error tells what was found: an end before the start, no plan, or a period that is too
long. -/
def tellsFindings : BillingError → Bool
  | .endBeforeStart | .planNotFound _ | .infrastructure _ => true
  | _ => false

theorem tellsFindings_of_code {e : BillingError} (h : e.code = .validationFailed) :
    e.tellsFindings = false := by
  cases e with
  | endBeforeStart | planNotFound | infrastructure => cases h
  | _ => rfl

theorem tellsFindings_ofCharge (f : Failure) : (ofCharge f).tellsFindings = false := by
  unfold ofCharge
  split <;> rfl

theorem tellsFindings_ofCreation (user : UserId) (f : Failure) :
    (ofCreation user f).tellsFindings = false := by
  unfold ofCreation
  split <;> rfl

theorem tellsFindings_ofUpdate (id : SubscriptionId) (user : UserId) (f : Failure) :
    (ofUpdate id user f).tellsFindings = false := by
  unfold ofUpdate
  split
  · rfl
  · exact tellsFindings_ofCreation user f

end BillingError

/-- The subscription ends before it starts. -/
def Subscription.isReversed (s : Subscription) : Bool :=
  s.endDate.any (·.isBefore s.startDate)

/-! ## What is found -/

/-- What a use case has found: the subscription that it has loaded, what there is under the
identifier of a plan, and where the clock stood when it first looked. -/
structure Findings where
  loaded : Option Subscription := none
  plan : Option (PlanId × Option Plan) := none
  began : Option Instant := none
  deriving DecidableEq

namespace Findings

/-- The findings after one more exchange.  What is found first counts. -/
def after (f : Findings) : Exchange → Findings
  | { request := .findSubscription _, answer := .ok (some s), injected := _ } =>
    { f with loaded := f.loaded.or (some s) }
  | { request := .findPlan id, answer := .ok found, injected := _ } =>
    { f with plan := f.plan.or (some (id, found)) }
  | { request := .clock, answer := now, injected := _ } =>
    { f with began := f.began.or (some now) }
  | _ => f

variable {f : Findings}

theorem loaded_after {s : Subscription} (h : f.loaded = some s) (e : Exchange) :
    (f.after e).loaded = some s := by
  unfold after
  split
  · simp [h]
  · exact h
  · exact h
  · exact h

theorem plan_after {found : PlanId × Option Plan} (h : f.plan = some found) (e : Exchange) :
    (f.after e).plan = some found := by
  unfold after
  split
  · exact h
  · simp [h]
  · exact h
  · exact h

theorem began_after {start : Instant} (h : f.began = some start) (e : Exchange) :
    (f.after e).began = some start := by
  unfold after
  split
  · exact h
  · exact h
  · simp [h]
  · exact h

/-- The plan that was found. -/
def found? (f : Findings) : Option Plan := f.plan.bind Prod.snd

/-- The start of the period that a use case is about: where the clock stood, for a new
subscription, and the end of the present period for a renewal. -/
def periodStart? (f : Findings) : UseCase → Option Instant
  | .subscribe _ _ => f.began
  | .renew _ => f.loaded.map Renew.nextStart
  | _ => none

/-- The start of the period that a use case is about, and its length. -/
def period? (f : Findings) (u : UseCase) : Option (Instant × PlanInterval) :=
  (f.periodStart? u).bind fun start => f.found?.map fun p => (start, p.terms.interval)

/-- The period that a use case is about ends outside the calendar. -/
def overruns (f : Findings) (u : UseCase) : Bool :=
  (f.period? u).any fun p => (periodEnd? p.1 p.2).isNone

end Findings

/-! ## What may be done about it -/

/-- The subscription is on the plan that was found, over the first period, which begins where the
clock stood. -/
structure Findings.Covers (f : Findings) (planId : PlanId) (s : Subscription) (p : Plan) :
    Prop where
  plan : s.plan = planId
  found : f.plan = some (planId, some p)
  began : f.began = some s.startDate
  ends : s.endDate = periodEnd? s.startDate p.terms.interval

/-- The subscription is new, and its owner's. -/
structure Findings.Opens (f : Findings) (owner : UserId) (planId : PlanId) (s : Subscription)
    (p : Plan) : Prop extends f.Covers planId s p where
  id : s.id = .unassigned
  user : s.user = owner
  assigned : owner.isAssigned = true
  isSet : s.startDate.isUnset = false

/-- The subscription is the one that was loaded, and its next period on the plan that was found ends
at the given instant. -/
structure Findings.Renews (f : Findings) (s : Subscription) (p : Plan) (e : Instant) : Prop where
  loaded : f.loaded = some s
  found : f.plan = some (s.plan, some p)
  ends : periodEnd? (Renew.nextStart s) p.terms.interval = some e

namespace Findings

variable {f : Findings} {owner : UserId} {planId : PlanId} {s : Subscription} {p : Plan}
  {e : Instant}

theorem Opens.after (h : f.Opens owner planId s p) (x : Exchange) :
    (f.after x).Opens owner planId s p :=
  { h with began := began_after h.began x, found := plan_after h.found x }

theorem Renews.after (h : f.Renews s p e) (x : Exchange) : (f.after x).Renews s p e :=
  { h with loaded := loaded_after h.loaded x, found := plan_after h.found x }

theorem Covers.period?_eq (h : f.Covers planId s p) (owner : UserId) :
    f.period? (.subscribe owner planId) = some (s.startDate, p.terms.interval) := by
  simp [period?, periodStart?, found?, h.began, h.found]

theorem Renews.period?_eq (h : f.Renews s p e) (id : SubscriptionId) :
    f.period? (.renew id) = some (Renew.nextStart s, p.terms.interval) := by
  simp [period?, periodStart?, found?, h.loaded, h.found]

theorem Renews.not_overruns (h : f.Renews s p e) (id : SubscriptionId) :
    f.overruns (.renew id) = false := by
  simp [overruns, h.period?_eq id, h.ends]

end Findings

namespace UseCase

variable (f : Findings)

/-- The use case may charge. -/
def bills : UseCase → Bool
  | .subscribe _ _ | .renew _ => true
  | _ => false

/-- A use case may charge for a subscription at the price of a plan. -/
def Bills (s : Subscription) (p : Plan) : UseCase → Prop
  | .subscribe user plan => f.Opens user plan s p
  | .renew _ => ∃ e, f.Renews s p e
  | _ => False

/-- A use case may store a new subscription. -/
def Stores (s : Subscription) : UseCase → Prop
  | .subscribe user plan => ∃ p, f.Opens user plan s p
  | _ => False

/-- A use case may put one subscription in place of another one. -/
def Amends (before after : Subscription) : UseCase → Prop
  | .subscribe _ _ => False
  | .renew _ => ∃ p e, f.Renews before p e ∧
      (after.endDate = before.endDate ∨ after.endDate = some e)
  | _ => after.endDate = before.endDate

/-- A use case may look a plan up. -/
def LooksUp (id : PlanId) : UseCase → Prop
  | .renew _ => ∃ before, f.loaded = some before ∧ before.plan = id
  | _ => True

variable {f} in
/-- Only a subscriber stores a new subscription. -/
theorem Stores.opens {s : Subscription} {u : UseCase} (h : u.Stores f s) :
    ∃ user planId p, u = .subscribe user planId ∧ f.Opens user planId s p := by
  cases u with
  | subscribe user planId =>
    obtain ⟨p, hopens⟩ := h
    exact ⟨user, planId, p, rfl, hopens⟩
  | _ => exact h.elim

/-- What a use case may ask, given what it has found. -/
def Warrants (u : UseCase) : Request → Prop
  | .charge s p => u.Bills f s p
  | .refund _ => u.bills = true
  | .createSubscription s => u.Stores f s
  | .updateSubscription s => ∃ before, f.loaded = some before ∧ s.id = before.id ∧
      before.SameOrigin s ∧ u.Amends f before s
  | .findPlan id => u.LooksUp f id
  | _ => True

section Later

variable {f}

/-- What the findings warrant they warrant for good. -/
theorem Warrants.after {u : UseCase} {r : Request} (h : u.Warrants f r) (e : Exchange) :
    u.Warrants (f.after e) r := by
  cases r with
  | charge s p =>
    cases u with
    | subscribe user plan => exact Findings.Opens.after h e
    | renew id =>
      obtain ⟨nextEnd, hrenews⟩ := h
      exact ⟨nextEnd, hrenews.after e⟩
    | _ => exact h.elim
  | createSubscription s =>
    cases u with
    | subscribe user plan =>
      obtain ⟨p, hopens⟩ := h
      exact ⟨p, hopens.after e⟩
    | _ => exact h.elim
  | updateSubscription s =>
    obtain ⟨before, hloaded, hid, horigin, hamends⟩ := h
    refine ⟨before, Findings.loaded_after hloaded e, hid, horigin, ?_⟩
    cases u with
    | renew id =>
      obtain ⟨p, nextEnd, hrenews, hend⟩ := hamends
      exact ⟨p, nextEnd, hrenews.after e, hend⟩
    | _ => exact hamends
  | findPlan id =>
    cases u with
    | renew target =>
      obtain ⟨before, hloaded, hplan⟩ := h
      exact ⟨before, Findings.loaded_after hloaded e, hplan⟩
    | _ => exact trivial
  | _ => exact h

end Later

/-- How a use case may end, given what it has found. -/
def Concludes : (u : UseCase) → u.Outcome → Prop
  | .subscribe _ _, .error e => e ≠ .endBeforeStart ∧ ∀ reason, e ≠ .infrastructure reason
  | .renew id, .error e =>
    (e = .endBeforeStart → ∃ before, f.loaded = some before ∧ before.isReversed = true) ∧
      (∀ plan, e = .planNotFound plan → f.plan = some (plan, none)) ∧
      ((∃ reason, e = .infrastructure reason) ↔ f.overruns (.renew id) = true)
  | .renew id, .ok _ => f.overruns (.renew id) = false
  | u, .error e => u.billingError? e ≠ some .endBeforeStart
  | _, .ok _ => True

section Endings

variable {f}

/-- Whoever has loaded no reversed subscription is not told that an end comes before a start. -/
theorem Concludes.ne_endBeforeStart {u : UseCase} {e : u.Error} (h : u.Concludes f (.error e))
    (hloaded : ∀ before, f.loaded = some before → before.isReversed = false) :
    u.billingError? e ≠ some .endBeforeStart := by
  cases u with
  | subscribe user plan =>
    intro he
    exact h.1 (Option.some.inj he)
  | renew id =>
    intro he
    obtain ⟨before, hbefore, hreversed⟩ := h.1 (Option.some.inj he)
    rw [hloaded before hbefore] at hreversed
    cases hreversed
  | _ => exact h

/-- A renewal that misses its plan has looked for it in vain. -/
theorem Concludes.plan_of_planNotFound {u : UseCase} {e : u.Error} (h : u.Concludes f (.error e))
    {id : SubscriptionId} (hu : u = .renew id) {planId : PlanId}
    (he : u.billingError? e = some (.planNotFound planId)) : f.plan = some (planId, none) := by
  subst hu
  exact h.2.1 planId (Option.some.inj he)

end Endings

/-- The conduct of doing only what the findings warrant. -/
def warranted (u : UseCase) : Conduct Findings u.Outcome where
  after := Findings.after
  allows := fun f => u.Warrants f
  ends := fun f => u.Concludes f

end UseCase

/-! ## The use cases do what their findings warrant -/

namespace Findings

open UseCase (warranted)

variable {f : Findings}

/-- An error that tells no findings is not that of an end before the start. -/
theorem ne_endBeforeStart {e : BillingError} (he : e.tellsFindings = false) :
    some e ≠ some BillingError.endBeforeStart := by
  rintro ⟨⟩
  cases he

/-! ### Changes -/

section Changes

variable {u : UseCase} {id : SubscriptionId}
  {change : Subscription → Instant → Except BillingError Unit × Subscription}
  {log : List Exchange}

theorem warrants_of_change (hu : u.bills = false)
    (hkeeps : ∀ {before after : Subscription} {now : Instant}, change before now = (.ok (), after) →
      after.id = before.id ∧ before.SameOrigin after ∧ after.endDate = before.endDate)
    {r : Request} (h : ChangeSubscription.Asks id change log r) :
    u.Warrants (log.foldl after {}) r := by
  cases h with
  | @save before after now hchange i j =>
    obtain ⟨hid, horigin, hend⟩ := hkeeps hchange
    refine ⟨before, rfl, hid, horigin, ?_⟩
    cases u with
    | subscribe | renew => cases hu
    | _ => exact hend
  | _ => exact trivial

/-- A change that fails with nothing but what tells no findings ends so as a whole. -/
theorem tellsFindings_of_change {α : Type} {result : Subscription → Subscription → α}
    (hfails : ∀ {before after : Subscription} {now : Instant} {e : BillingError},
      change before now = (.error e, after) → e.tellsFindings = false) {e : BillingError}
    (h : ChangeSubscription.Ends id change result log (.error e)) : e.tellsFindings = false := by
  cases h with
  | failed | missing => rfl
  | refused hchange i j => exact hfails hchange
  | unsaved hchange f i j k => exact BillingError.tellsFindings_ofUpdate _ _ _

end Changes

theorem tellsFindings_of_updateStatus {s s' : Subscription} {code : String} {now : Instant}
    {e : BillingError} (h : s.updateStatus code now = (.error e, s')) :
    e.tellsFindings = false := by
  obtain ⟨-, rfl, -⟩ := Subscription.updateStatus_eq_error_iff.mp h
  rfl

/-! ### Renewals -/

section Renew

variable {id : SubscriptionId} {log : List Exchange} {before : Subscription} {p : Plan}
  {nextEnd now : Instant}

/-- The errors with which a renewal may end once it knows its next period. -/
def Excuses (before : Subscription) (e : BillingError) : Prop :=
  e.tellsFindings = true → e = .endBeforeStart ∧ before.isReversed = true

theorem excuses_of_not_tells {e : BillingError} (he : e.tellsFindings = false) :
    Excuses before e := by
  intro htells
  rw [he] at htells
  cases htells

/-- As long as it does not know of a period outside the calendar, a renewal may end with any error
that tells no findings. -/
theorem concludes_error {e : BillingError} (hfits : f.overruns (.renew id) = false)
    (he : e.tellsFindings = false) : (UseCase.renew id).Concludes f (.error e) := by
  refine ⟨?_, ?_, ?_⟩
  · rintro rfl
    cases he
  · rintro plan rfl
    cases he
  · rw [hfits]
    constructor
    · rintro ⟨reason, rfl⟩
      cases he
    · rintro ⟨⟩

theorem Renews.concludes (h : f.Renews before p nextEnd) {e : BillingError}
    (he : Excuses before e) : (UseCase.renew id).Concludes f (.error e) := by
  cases htells : e.tellsFindings with
  | false => exact concludes_error (h.not_overruns id) htells
  | true =>
    obtain ⟨rfl, hreversed⟩ := he htells
    refine ⟨fun _ => ⟨before, h.loaded, hreversed⟩, fun plan hplan => (nomatch hplan), ?_⟩
    rw [h.not_overruns id]
    constructor
    · rintro ⟨reason, ⟨⟩⟩
    · rintro ⟨⟩

/-- Only the end of a subscription that is reversed already can move before its start. -/
theorem Renews.isReversed (h : f.Renews before p nextEnd)
    (hbefore : nextEnd.isBefore before.startDate = true) : before.isReversed = true := by
  have hlater := isBefore_of_periodEnd? h.ends
  unfold Renew.nextStart at hlater
  unfold Subscription.isReversed
  cases hend : before.endDate with
  | none =>
    rw [hend] at hlater
    have hnot := Instant.not_isBefore_of_isBefore hlater
    rw [Option.getD_none, hbefore] at hnot
    cases hnot
  | some t =>
    rw [hend] at hlater
    exact Instant.isBefore_trans hlater hbefore

theorem of_due (h : Renew.Due id log before p nextEnd) :
    (log.foldl after {}).Renews before p nextEnd := by
  cases h with
  | intro _ _ hend i j => exact ⟨rfl, rfl, hend⟩

theorem of_declined {reason : String} (h : Renew.Declined id log before reason now) :
    ∃ p nextEnd, (log.foldl after {}).Renews before p nextEnd := by
  cases h with
  | intro h _ now i j =>
    rw [List.foldl_concat, List.foldl_concat]
    exact ⟨_, _, ((of_due h).after _).after _⟩

theorem of_paid {receipt : Receipt} (h : Renew.Paid id log before p nextEnd receipt now) :
    (log.foldl after {}).Renews before p nextEnd := by
  cases h with
  | intro h receipt now i j =>
    rw [List.foldl_concat, List.foldl_concat]
    exact ((of_due h).after _).after _

theorem warrants_of_renew {r : Request} (h : Renew.Asks id log r) :
    (UseCase.renew id).Warrants (log.foldl after {}) r := by
  cases h with
  | plan _ _ i => exact ⟨_, rfl, rfl⟩
  | charge h => exact ⟨_, of_due h⟩
  | mark h =>
    obtain ⟨p, nextEnd, hrenews⟩ := of_declined h
    exact ⟨_, hrenews.loaded, rfl, ⟨rfl, rfl, rfl, rfl⟩, p, nextEnd, hrenews, Or.inl rfl⟩
  | extend h _ =>
    have hrenews := of_paid h
    exact ⟨_, hrenews.loaded, rfl, ⟨rfl, rfl, rfl, rfl⟩, _, _, hrenews, Or.inr rfl⟩
  | refundEarly | refund => exact rfl
  | _ => exact trivial

theorem concludes_of_renew {a : Except BillingError Renewed} (h : Renew.Ends id log a) :
    (UseCase.renew id).Concludes (log.foldl after {}) a := by
  cases h with
  | planMissing before i j =>
    refine ⟨fun h => (nomatch h), ?_, ?_⟩
    · rintro plan ⟨⟩
      rfl
    · constructor
      · rintro ⟨reason, ⟨⟩⟩
      · rintro ⟨⟩
  | overrun hend i j =>
    -- the period that was found has no end, and this is the error that tells so
    refine ⟨fun h => (nomatch h), fun plan h => (nomatch h), fun _ => ?_, fun _ => ⟨_, rfl⟩⟩
    simp [overruns, after, period?, periodStart?, found?, hend]
  | uncharged h _ i =>
    rw [List.foldl_concat]
    exact ((of_due h).after _).concludes (excuses_of_not_tells rfl)
  | unmarked h f i =>
    obtain ⟨p, nextEnd, hrenews⟩ := of_declined h
    rw [List.foldl_concat]
    exact (hrenews.after _).concludes
      (excuses_of_not_tells (BillingError.tellsFindings_ofUpdate _ _ _))
  | declined h i =>
    obtain ⟨p, nextEnd, hrenews⟩ := of_declined h
    rw [List.foldl_concat]
    exact (hrenews.after _).concludes (excuses_of_not_tells rfl)
  | early h hearly answer i =>
    have hrenews := of_paid h
    rw [List.foldl_concat]
    exact (hrenews.after _).concludes fun _ => ⟨rfl, hrenews.isReversed hearly⟩
  | unsaved h _ f answer i j =>
    rw [List.foldl_concat, List.foldl_concat]
    exact (((of_paid h).after _).after _).concludes
      (excuses_of_not_tells (BillingError.tellsFindings_ofUpdate _ _ _))
  | renewed h _ i =>
    rw [List.foldl_concat]
    exact ((of_paid h).after _).not_overruns id
  | _ => exact concludes_error rfl rfl

end Renew

/-! ### Subscribing -/

section Subscribe

variable {user : UserId} {planId : PlanId} {log : List Exchange} {s : Subscription} {p : Plan}

/-- An error that tells no findings is one of those with which a subscriber may end. -/
theorem subscribe_error {e : BillingError} (he : e.tellsFindings = false) :
    e ≠ .endBeforeStart ∧ ∀ reason, e ≠ .infrastructure reason := by
  constructor
  · rintro rfl
    cases he
  · rintro reason rfl
    cases he

/-- A first period does not end before it starts, so a draft of one breaks another rule if any. -/
theorem tellsFindings_of_create {start now : Instant} {interval : PlanInterval} {e : BillingError}
    (h : Subscription.create ⟨user, planId, start, periodEnd? start interval⟩ now = .error e) :
    e.tellsFindings = false := by
  unfold Subscription.create at h
  split at h
  · next herror =>
    cases h
    refine BillingError.tellsFindings_of_code
      ((SubscriptionDraft.code_of_error? herror).mpr fun hearly => ?_)
    obtain ⟨t, ht, hbefore⟩ := hearly.ends
    have hafter := Instant.not_isBefore_of_isBefore (isBefore_of_periodEnd? ht)
    rw [hbefore] at hafter
    cases hafter
  · cases h

theorem opens_of_create {start now : Instant} (huser : user.isAssigned = true)
    (hbegan : f.began = some start) (hfound : f.plan = some (planId, some p))
    (h : Subscription.create ⟨user, planId, start, periodEnd? start p.terms.interval⟩ now = .ok s) :
    f.Opens user planId s p := by
  have hset := (Subscription.draft_of_create h).2.start
  unfold Subscription.create at h
  split at h
  · cases h
  · cases h
    exact ⟨⟨rfl, hfound, hbegan, rfl⟩, rfl, rfl, huser, hset⟩

/-- The first reading of the clock is the one that counts. -/
theorem of_drafted (h : Subscribe.Drafted user planId log s p) :
    (log.foldl after {}).Opens user planId s p := by
  cases h with
  | intro h hcreate i j k l => exact opens_of_create h.user rfl rfl hcreate

theorem of_settled {receipt : Option Receipt} (h : Subscribe.Settled user planId log s receipt) :
    ∃ p, (log.foldl after {}).Opens user planId s p := by
  cases h with
  | trial h _ => exact ⟨_, of_drafted h⟩
  | charged h _ receipt i =>
    rw [List.foldl_concat]
    exact ⟨_, (of_drafted h).after _⟩

theorem warrants_of_subscribe {r : Request} (h : Subscribe.Asks user planId log r) :
    (UseCase.subscribe user planId).Warrants (log.foldl after {}) r := by
  cases h with
  | charge h _ => exact of_drafted h
  | store h => exact of_settled h
  | refund => exact rfl
  | _ => exact trivial

theorem concludes_of_subscribe {a : Except BillingError Subscribed}
    (h : Subscribe.Ends user planId log a) :
    (UseCase.subscribe user planId).Concludes (log.foldl after {}) a := by
  cases h with
  | planMissing h i => exact ⟨fun h => (nomatch h), fun reason h => (nomatch h)⟩
  | unsound h hcreate i j k l => exact subscribe_error (tellsFindings_of_create hcreate)
  | uncharged h _ f i => exact subscribe_error (BillingError.tellsFindings_ofCharge f)
  | stored h x i => exact trivial
  | unstored h f i => exact subscribe_error (BillingError.tellsFindings_ofCreation _ f)
  | refunded h f answer i j => exact subscribe_error (BillingError.tellsFindings_ofCreation _ f)
  | _ => exact subscribe_error rfl

end Subscribe

/-! ### All use cases -/

theorem tellsFindings_of_createPlan {draft : PlanDraft} {log : List Exchange} {e : BillingError}
    (h : CreatePlan.Ends draft log (.error e)) : e.tellsFindings = false := by
  cases h with
  | unsound hcreate i =>
    unfold Plan.create at hcreate
    split at hcreate
    · next hcheck =>
      cases hcreate
      exact BillingError.tellsFindings_of_code (PlanDraft.code_of_check hcheck)
    · cases hcreate
  | failed => rfl

theorem warrants_of_asks {u : UseCase} {log : List Exchange} {r : Request} (h : u.Asks log r) :
    u.Warrants (log.foldl after {}) r := by
  cases u with
  | subscribe user planId => exact warrants_of_subscribe h
  | changeStatus id code => exact warrants_of_change rfl Subscription.keeps_of_updateStatus h
  | changeAutoRenew id autoRenew =>
    exact warrants_of_change rfl Subscription.keeps_of_setAutoRenew h
  | renew id => exact warrants_of_renew h
  | _ => cases h <;> exact trivial

theorem concludes_of_ends {u : UseCase} {log : List Exchange} {a : u.Outcome} (h : u.Ends log a) :
    u.Concludes (log.foldl after {}) a := by
  cases u with
  | subscribe user planId => exact concludes_of_subscribe h
  | renew id => exact concludes_of_renew h
  | createPlan draft =>
    cases a with
    | error e => exact ne_endBeforeStart (tellsFindings_of_createPlan h)
    | ok plan => exact trivial
  | changeStatus id code =>
    cases a with
    | error e => exact ne_endBeforeStart (tellsFindings_of_change tellsFindings_of_updateStatus h)
    | ok changed => exact trivial
  | changeAutoRenew id autoRenew =>
    cases a with
    | error e =>
      refine ne_endBeforeStart (tellsFindings_of_change ?_ h)
      rintro _ _ _ _ ⟨⟩
    | ok changed => exact trivial
  | listPlans | listSubscriptions =>
    cases h with
    | listed => exact trivial
    | _ => exact ne_endBeforeStart rfl
  | register | activate | signIn =>
    -- these do not fail with an error of billing
    cases a with
    | error e => exact (Option.some_ne_none _).symm
    | ok value => exact trivial

/-- Every use case does what its findings warrant. -/
theorem obeys_warranted (u : UseCase) : u.program.Obeys u.warranted {} :=
  u.follows.obeys (fun _ _ h _ => warrants_of_asks h) fun _ _ h _ => concludes_of_ends h

end Findings

/-! ## The findings of a task -/

namespace Task

/-- What a use case has found so far. -/
def findings (t : Task) : Findings := t.log.foldl Findings.after {}

theorem findings_advance (t : Task) (r : Request) (next : r.Answer → Program t.useCase.Outcome)
    (answer : r.Answer) (injected : Bool) :
    (t.advance r next answer injected).findings =
      t.findings.after { request := r, answer, injected } :=
  stateBy_advance UseCase.warranted {} r next answer injected

theorem Obeys.warrants {t : Task} {r : Request} {next : r.Answer → Program t.useCase.Outcome}
    (h : t.Obeys UseCase.warranted {}) (hrest : t.rest = .call r next) :
    t.useCase.Warrants t.findings r :=
  h.allows hrest

theorem Obeys.concludes {t : Task} {outcome : t.useCase.Outcome}
    (h : t.Obeys UseCase.warranted {}) (houtcome : t.outcome? = some outcome) :
    t.useCase.Concludes t.findings outcome :=
  h.ends houtcome

end Task

namespace Scene

theorem obeys_warranted_start (w : World) (calls : List UseCase) :
    ∀ t ∈ (start w calls).tasks, t.Obeys UseCase.warranted {} :=
  forall_mem_start w fun u _ => Findings.obeys_warranted u

theorem obeys_warranted_step {sv : Services} {s : Scene} {turn : Turn}
    (hs : ∀ t ∈ s.tasks, t.Obeys UseCase.warranted {}) :
    ∀ t ∈ (s.step sv turn).tasks, t.Obeys UseCase.warranted {} :=
  step_tasks hs fun _ _ _ _ _ _ hrest _ hobeys => hobeys.advance hrest trivial

end Scene

end RecurringBilling
