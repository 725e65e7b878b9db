import RecurringBilling.Billing.Error
import RecurringBilling.Calendar.Instant
import RecurringBilling.Subscription.Status

/-!
# Subscriptions

A subscription names its user and its plan by identifier only.  Its life cycle
is a handful of changes.  A change acts on the subscription where it stands, so it
gives both its outcome and the subscription after it: one that succeeds has set a
field and stamped the subscription with the instant of the change, and one that
fails has set nothing.
-/

namespace RecurringBilling

open RecurringBilling.Calendar

/-- What a subscription is made from.  Without an end date it never expires. -/
structure SubscriptionDraft where
  user : UserId
  plan : PlanId
  startDate : Instant
  endDate : Option Instant
  deriving DecidableEq

/-- The first rule that a draft breaks: user, plan, start, then end. -/
def SubscriptionDraft.error? (draft : SubscriptionDraft) : Option BillingError :=
  if !draft.user.isAssigned then some .userIdMissing
  else if !draft.plan.isAssigned then some .planIdMissing
  else if draft.startDate.isUnset then some .startDateMissing
  else if draft.endDate.any (·.isBefore draft.startDate) then some .endBeforeStart
  else none

/-- A user's subscription to a plan. -/
structure Subscription where
  id : SubscriptionId
  user : UserId
  plan : PlanId
  status : SubscriptionStatus
  startDate : Instant
  endDate : Option Instant
  autoRenew : Bool
  createdAt : Instant
  updatedAt : Instant
  deriving DecidableEq

namespace Subscription

/-- A new subscription that has not been stored: active and renewing itself. -/
def create (draft : SubscriptionDraft) (now : Instant) : Except BillingError Subscription :=
  match draft.error? with
  | some e => .error e
  | none =>
    .ok
      { id := .unassigned
        user := draft.user
        plan := draft.plan
        status := .active
        startDate := draft.startDate
        endDate := draft.endDate
        autoRenew := true
        createdAt := now
        updatedAt := now }

/-- A subscription as it was stored, checked once more. -/
def restore (id : SubscriptionId) (draft : SubscriptionDraft) (status : String)
    (autoRenew : Bool) (createdAt updatedAt : Instant) : Except BillingError Subscription :=
  if id.isAssigned then
    match draft.error? with
    | some e => .error e
    | none =>
      match SubscriptionStatus.ofCode? status with
      | none => .error (.unknownStatus status)
      | some status =>
        .ok
          { id
            user := draft.user
            plan := draft.plan
            status
            startDate := draft.startDate
            endDate := draft.endDate
            autoRenew
            createdAt
            updatedAt }
  else .error .subscriptionIdMissing

/-- The subscription gives access now. -/
def isActive (s : Subscription) : Bool := s.status.isActive

/-- The subscription under the identifier that a store has assigned. -/
def withId (s : Subscription) (id : SubscriptionId) : Subscription := { s with id }

/-- The subscription with the stamp of a change. -/
def touch (s : Subscription) (now : Instant) : Subscription := { s with updatedAt := now }

/-- Puts the status that a word names in place of the present one.  Any status
may follow any other.  The subscription is given as the call leaves it, also
where the call fails. -/
def updateStatus (s : Subscription) (code : String) (now : Instant) :
    Except BillingError Unit × Subscription :=
  match SubscriptionStatus.ofCode? code with
  | none => (.error (.unknownStatus code), s)
  | some status => (.ok (), { s with status }.touch now)

/-- Moves the end of the current period, never before the start.  The
subscription is given as the call leaves it, also where the call fails. -/
def updateEndDate (s : Subscription) (endDate now : Instant) :
    Except BillingError Unit × Subscription :=
  if endDate.isBefore s.startDate then (.error .endBeforeStart, s)
  else (.ok (), { s with endDate := some endDate }.touch now)

/-- Turns renewal at the end of a period on or off. -/
def setAutoRenew (s : Subscription) (autoRenew : Bool) (now : Instant) : Subscription :=
  { s with autoRenew }.touch now

/-! ## What the calls leave -/

/-- A subscription can be given any status. -/
theorem updateStatus_code (s : Subscription) (status : SubscriptionStatus) (now : Instant) :
    s.updateStatus status.code now = (.ok (), { s with status, updatedAt := now }) := by
  rw [updateStatus, SubscriptionStatus.ofCode?_code]
  rfl

theorem updateStatus_eq_ok_iff {s s' : Subscription} {code : String} {now : Instant} :
    s.updateStatus code now = (.ok (), s') ↔
      ∃ status, SubscriptionStatus.ofCode? code = some status ∧
        s' = { s with status, updatedAt := now } := by
  unfold updateStatus
  constructor
  · intro h
    split at h
    · cases h
    · next status hstatus =>
      cases h
      exact ⟨status, hstatus, rfl⟩
  · rintro ⟨status, hstatus, rfl⟩
    rw [hstatus]
    rfl

/-- A word that names no status changes nothing. -/
theorem updateStatus_eq_error_iff {s s' : Subscription} {code : String} {now : Instant}
    {e : BillingError} :
    s.updateStatus code now = (.error e, s') ↔
      SubscriptionStatus.ofCode? code = none ∧ e = .unknownStatus code ∧ s' = s := by
  unfold updateStatus
  constructor
  · intro h
    split at h
    · next hunknown =>
      cases h
      exact ⟨hunknown, rfl, rfl⟩
    · cases h
  · rintro ⟨hunknown, rfl, rfl⟩
    rw [hunknown]

theorem updateEndDate_eq_ok_iff {s s' : Subscription} {endDate now : Instant} :
    s.updateEndDate endDate now = (.ok (), s') ↔
      endDate.isBefore s.startDate = false ∧
        s' = { s with endDate := some endDate, updatedAt := now } := by
  unfold updateEndDate
  constructor
  · intro h
    split at h
    · cases h
    · next hordered =>
      cases h
      exact ⟨by simpa using hordered, rfl⟩
  · rintro ⟨hordered, rfl⟩
    rw [hordered]
    rfl

/-- An end before the start changes nothing. -/
theorem updateEndDate_eq_error_iff {s s' : Subscription} {endDate now : Instant}
    {e : BillingError} :
    s.updateEndDate endDate now = (.error e, s') ↔
      endDate.isBefore s.startDate = true ∧ e = .endBeforeStart ∧ s' = s := by
  unfold updateEndDate
  constructor
  · intro h
    split at h
    · next hearly =>
      cases h
      exact ⟨hearly, rfl, rfl⟩
    · cases h
  · rintro ⟨hearly, rfl, rfl⟩
    rw [if_pos hearly]

end Subscription

end RecurringBilling
