import RecurringBilling.Subscription.Basic

/-!
# The life of a subscription

A subscription is created or restored from a sound draft: user and plan have been stored,
the start is set, and the end, if there is one, is not before it.  Whatever is changed
later, and whether the change succeeds or fails, the subscription could be restored from
what it says: no change moves the user, the plan or the start, and the end is compared
with the start before it moves.
-/

namespace RecurringBilling

open RecurringBilling.Calendar

/-! ## Sound drafts -/

/-- The draft breaks no rule. -/
structure SubscriptionDraft.Sound (draft : SubscriptionDraft) : Prop where
  user : draft.user.isAssigned = true
  plan : draft.plan.isAssigned = true
  start : draft.startDate.isUnset = false
  ordered : ∀ t, draft.endDate = some t → t.isBefore draft.startDate = false

theorem SubscriptionDraft.error?_eq_none_iff {draft : SubscriptionDraft} :
    draft.error? = none ↔ draft.Sound := by
  unfold error?
  constructor
  · intro h
    split at h
    · cases h
    · next huser =>
      split at h
      · cases h
      · next hplan =>
        split at h
        · cases h
        · next hstart =>
          split at h
          · cases h
          · next hend =>
            refine ⟨by simpa using huser, by simpa using hplan, by simpa using hstart, ?_⟩
            intro t ht
            simpa [ht] using hend
  · rintro ⟨huser, hplan, hstart, hend⟩
    have hany : draft.endDate.any (·.isBefore draft.startDate) = false := by
      cases h : draft.endDate with
      | none => rfl
      | some t => exact hend t h
    simp [huser, hplan, hstart, hany]

/-- The draft breaks the last rule, and no other one. -/
structure SubscriptionDraft.EndsEarly (draft : SubscriptionDraft) : Prop where
  user : draft.user.isAssigned = true
  plan : draft.plan.isAssigned = true
  start : draft.startDate.isUnset = false
  ends : ∃ t, draft.endDate = some t ∧ t.isBefore draft.startDate = true

/-- Every broken rule is a matter of validation, except that the end comes before the start. -/
theorem SubscriptionDraft.code_of_error? {draft : SubscriptionDraft} {e : BillingError}
    (h : draft.error? = some e) : e.code = .validationFailed ↔ ¬draft.EndsEarly := by
  unfold error? at h
  split at h
  · next huser =>
    cases h
    exact ⟨fun _ hends => by simp [hends.user] at huser, fun _ => rfl⟩
  · next huser =>
    split at h
    · next hplan =>
      cases h
      exact ⟨fun _ hends => by simp [hends.plan] at hplan, fun _ => rfl⟩
    · next hplan =>
      split at h
      · next hstart =>
        cases h
        exact ⟨fun _ hends => by simp [hends.start] at hstart, fun _ => rfl⟩
      · next hstart =>
        split at h
        · next hend =>
          cases h
          have hearly : draft.EndsEarly :=
            ⟨by simpa using huser, by simpa using hplan, by simpa using hstart,
              (Option.any_eq_true _ _).mp hend⟩
          exact ⟨fun hcode => (nomatch hcode), fun hnot => absurd hearly hnot⟩
        · cases h

/-- A draft that breaks the last rule only is refused for it. -/
theorem SubscriptionDraft.EndsEarly.error?_eq {draft : SubscriptionDraft} (h : draft.EndsEarly) :
    draft.error? = some .endBeforeStart := by
  obtain ⟨t, ht, hbefore⟩ := h.ends
  simp [error?, h.user, h.plan, h.start, ht, hbefore]

theorem SubscriptionStatus.ofCode?_eq_some_iff {code : String} {status : SubscriptionStatus} :
    ofCode? code = some status ↔ status.code = code := by
  constructor
  · intro h
    unfold ofCode? at h
    repeat' split at h
    all_goals cases h
    all_goals exact Eq.symm ‹_›
  · rintro rfl
    exact ofCode?_code status

namespace Subscription

/-- The draft that a subscription would be made from as it stands. -/
def draft (s : Subscription) : SubscriptionDraft :=
  { user := s.user, plan := s.plan, startDate := s.startDate, endDate := s.endDate }

/-! ## Beginnings -/

/-- The subscription has just been created, or restored from storage. -/
inductive Begins (s : Subscription) : Prop where
  | created (draft : SubscriptionDraft) (now : Instant) (h : create draft now = .ok s)
  | restored (id : SubscriptionId) (draft : SubscriptionDraft) (status : String)
      (autoRenew : Bool) (createdAt updatedAt : Instant)
      (h : restore id draft status autoRenew createdAt updatedAt = .ok s)

theorem restore_eq_ok_iff {id : SubscriptionId} {draft : SubscriptionDraft} {status : String}
    {autoRenew : Bool} {createdAt updatedAt : Instant} {s : Subscription} :
    restore id draft status autoRenew createdAt updatedAt = .ok s ↔
      id.isAssigned = true ∧ draft.Sound ∧ s.id = id ∧ s.draft = draft ∧
        s.status.code = status ∧ s.autoRenew = autoRenew ∧
        s.createdAt = createdAt ∧ s.updatedAt = updatedAt := by
  unfold restore
  constructor
  · intro h
    split at h
    · next hid =>
      split at h
      · cases h
      · next hsound =>
        split at h
        · cases h
        · next hstatus =>
          cases h
          exact ⟨hid, SubscriptionDraft.error?_eq_none_iff.mp hsound, rfl, rfl,
            SubscriptionStatus.ofCode?_eq_some_iff.mp hstatus, rfl, rfl, rfl⟩
    · cases h
  · rintro ⟨hid, hsound, rfl, rfl, rfl, rfl, rfl, rfl⟩
    rw [if_pos hid, SubscriptionDraft.error?_eq_none_iff.mpr hsound,
      SubscriptionStatus.ofCode?_code]
    rfl

theorem restore_of_endsEarly {id : SubscriptionId} (hid : id.isAssigned = true)
    {draft : SubscriptionDraft} (hdraft : draft.EndsEarly) (status : String) (autoRenew : Bool)
    (createdAt updatedAt : Instant) :
    restore id draft status autoRenew createdAt updatedAt = .error .endBeforeStart := by
  rw [restore, if_pos hid, hdraft.error?_eq]

/-- What is restored in vain breaks a rule of validation, unless it ends before it starts. -/
theorem code_of_restore {id : SubscriptionId} {draft : SubscriptionDraft} {status : String}
    {autoRenew : Bool} {createdAt updatedAt : Instant} {e : BillingError}
    (h : restore id draft status autoRenew createdAt updatedAt = .error e) :
    e.code = .validationFailed ↔ ¬(id.isAssigned = true ∧ draft.EndsEarly) := by
  by_cases hid : id.isAssigned = true
  · rw [restore, if_pos hid] at h
    split at h
    · next herror =>
      cases h
      rw [SubscriptionDraft.code_of_error? herror, and_iff_right hid]
    · next hsound =>
      -- no rule for drafts is broken, so it is the word for the status
      split at h
      · cases h
        refine ⟨?_, fun _ => rfl⟩
        rintro - ⟨-, hends⟩
        rw [hends.error?_eq] at hsound
        cases hsound
      · cases h
  · rw [restore, if_neg hid] at h
    cases h
    exact ⟨fun _ hends => hid hends.1, fun _ => rfl⟩

theorem draft_of_create {draft : SubscriptionDraft} {now : Instant} {s : Subscription}
    (h : create draft now = .ok s) : s.draft = draft ∧ draft.Sound := by
  unfold create at h
  split at h
  · cases h
  · next hsound =>
    cases h
    exact ⟨rfl, SubscriptionDraft.error?_eq_none_iff.mp hsound⟩

theorem Begins.sound {s : Subscription} (h : s.Begins) : s.draft.Sound := by
  cases h with
  | created draft now h =>
    obtain ⟨hdraft, hsound⟩ := draft_of_create h
    rw [hdraft]
    exact hsound
  | restored id draft status autoRenew createdAt updatedAt h =>
    obtain ⟨-, hsound, -, hdraft, -⟩ := restore_eq_ok_iff.mp h
    rw [hdraft]
    exact hsound

/-! ## Changes -/

/-- A change in the life of a subscription, with the instant at which it is made. -/
inductive Change where
  | status (code : String) (now : Instant)
  | endDate (t now : Instant)
  | autoRenew (on : Bool) (now : Instant)
  | id (n : SubscriptionId)
  deriving DecidableEq

/-- The outcome of the change, and the subscription as the call leaves it. -/
def Change.apply (s : Subscription) : Change → Except BillingError Unit × Subscription
  | .status code now => s.updateStatus code now
  | .endDate t now => s.updateEndDate t now
  | .autoRenew on now => (.ok (), s.setAutoRenew on now)
  | .id n => (.ok (), s.withId n)

/-- The subscription after the change, whatever its outcome. -/
def Change.after (s : Subscription) (change : Change) : Subscription := (change.apply s).2

/-- The subscription after a sequence of changes. -/
def changed (s : Subscription) (changes : List Change) : Subscription :=
  changes.foldl Change.after s

/-- A change that fails leaves the subscription as it was, field by field.  Each of the calls that
can fail brings its own reason for that. -/
theorem Change.eq_of_apply_error {s s' : Subscription} {change : Change} {e : BillingError}
    (h : change.apply s = (.error e, s')) : s' = s := by
  cases change with
  | status code now =>
    obtain ⟨-, -, hsame⟩ := updateStatus_eq_error_iff.mp h
    exact hsame
  | endDate t now =>
    obtain ⟨-, -, hsame⟩ := updateEndDate_eq_error_iff.mp h
    exact hsame
  | autoRenew on now => nomatch h
  | id n => nomatch h

theorem Change.sound_of_apply {s s' : Subscription} {change : Change} (hs : s.draft.Sound)
    (h : change.apply s = (.ok (), s')) : s'.draft.Sound := by
  cases change with
  | status code now =>
    obtain ⟨status, -, rfl⟩ := updateStatus_eq_ok_iff.mp h
    exact hs
  | endDate t now =>
    obtain ⟨hordered, rfl⟩ := updateEndDate_eq_ok_iff.mp h
    refine ⟨hs.user, hs.plan, hs.start, ?_⟩
    rintro u hu
    cases hu
    exact hordered
  | autoRenew on now =>
    cases h
    exact hs
  | id n =>
    cases h
    exact hs

theorem Change.sound_after {s : Subscription} (hs : s.draft.Sound) (change : Change) :
    (change.after s).draft.Sound := by
  unfold after
  cases happly : change.apply s with
  | mk outcome s' =>
    cases outcome with
    | error e =>
      rw [eq_of_apply_error happly]
      exact hs
    | ok => exact sound_of_apply hs happly

/-- The rules for drafts hold at every point in the life of a subscription. -/
theorem sound_changed {s : Subscription} (hs : s.draft.Sound) (changes : List Change) :
    (s.changed changes).draft.Sound := by
  induction changes generalizing s with
  | nil => exact hs
  | cons change rest ih => exact ih (change.sound_after hs)

end Subscription

end RecurringBilling
