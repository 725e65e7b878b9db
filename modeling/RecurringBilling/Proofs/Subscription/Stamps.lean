import RecurringBilling.Proofs.Calendar.Succession
import RecurringBilling.Proofs.Subscription.Lifecycle

/-!
# The stamps of a subscription

A change that succeeds sets the one field that it is about and the stamp of the last
change, but for a new identifier, which leaves no stamp; a change that fails sets nothing.
So user, plan, start and the stamp of creation stay for good.  While the clock does not go
back, the stamp of the last change does not go back either, and in a subscription that was
created under that clock it never comes before the stamp of creation.
-/

namespace RecurringBilling

open RecurringBilling.Calendar

namespace Calendar.Instant

theorem not_isAfter_self (t : Instant) : t.isAfter t = false := isBefore_irrefl t

theorem not_isAfter_trans {t u v : Instant} (htu : t.isAfter u = false)
    (huv : u.isAfter v = false) : t.isAfter v = false := by
  simp only [isAfter, isBefore, Bool.or_eq_false_iff, Bool.and_eq_false_iff,
    decide_eq_false_iff_not, beq_eq_false_iff_ne] at *
  omega

end Calendar.Instant

namespace Subscription

/-! ## What a change sets -/

namespace Change

/-- The change can turn `s` into `s'`: it sets its own field and, unless that is the identifier, the
stamp of the last change. -/
def Sets (s s' : Subscription) : Change → Prop
  | .status code now => ∃ status, status.code = code ∧ s' = { s with status, updatedAt := now }
  | .endDate t now =>
    t.isBefore s.startDate = false ∧ s' = { s with endDate := some t, updatedAt := now }
  | .autoRenew on now => s' = { s with autoRenew := on, updatedAt := now }
  | .id n => s' = { s with id := n }

/-- What a change sets when it succeeds, and that it succeeds whenever it can set it. -/
theorem apply_eq_ok_iff {s s' : Subscription} {change : Change} :
    change.apply s = (.ok (), s') ↔ change.Sets s s' := by
  cases change with
  | status code now =>
    rw [apply, updateStatus_eq_ok_iff]
    simp only [SubscriptionStatus.ofCode?_eq_some_iff, Sets]
  | endDate t now => exact updateEndDate_eq_ok_iff
  | autoRenew on now =>
    constructor
    · rintro ⟨⟩
      rfl
    · rintro rfl
      rfl
  | id n =>
    constructor
    · rintro ⟨⟩
      rfl
    · rintro rfl
      rfl

theorem after_eq_of_apply {s s' : Subscription} {change : Change}
    {outcome : Except BillingError Unit} (h : change.apply s = (outcome, s')) :
    change.after s = s' := by
  rw [after, h]

/-- A change leaves the subscription as it was, or sets what it can set. -/
theorem after_cases (s : Subscription) (change : Change) :
    change.after s = s ∨ change.Sets s (change.after s) := by
  unfold after
  cases happly : change.apply s with
  | mk outcome s' =>
    cases outcome with
    | error e => exact Or.inl (eq_of_apply_error happly)
    | ok => exact Or.inr (apply_eq_ok_iff.mp happly)

/-- The reading of the clock with which a change stamps the subscription. -/
def reading? : Change → Option Instant
  | .status _ now | .endDate _ now | .autoRenew _ now => some now
  | .id _ => none

end Change

/-! ## What stays -/

/-- Two subscriptions of one user to one plan, with one start and one stamp of creation. -/
structure SameOrigin (s s' : Subscription) : Prop where
  user : s'.user = s.user
  plan : s'.plan = s.plan
  startDate : s'.startDate = s.startDate
  createdAt : s'.createdAt = s.createdAt

theorem SameOrigin.refl (s : Subscription) : s.SameOrigin s := ⟨rfl, rfl, rfl, rfl⟩

theorem SameOrigin.trans {s s' s'' : Subscription} (h : s.SameOrigin s') (h' : s'.SameOrigin s'') :
    s.SameOrigin s'' where
  user := h'.user.trans h.user
  plan := h'.plan.trans h.plan
  startDate := h'.startDate.trans h.startDate
  createdAt := h'.createdAt.trans h.createdAt

namespace Change

/-- What a change sets is neither the origin nor, unless it is the reading of the clock, the stamp
of the last change. -/
theorem Sets.sameOrigin {s s' : Subscription} {change : Change} (h : change.Sets s s') :
    s.SameOrigin s' ∧ (s'.updatedAt = s.updatedAt ∨ change.reading? = some s'.updatedAt) := by
  cases change with
  | status code now =>
    obtain ⟨status, -, rfl⟩ := h
    exact ⟨⟨rfl, rfl, rfl, rfl⟩, Or.inr rfl⟩
  | endDate t now =>
    obtain ⟨-, rfl⟩ := h
    exact ⟨⟨rfl, rfl, rfl, rfl⟩, Or.inr rfl⟩
  | autoRenew on now =>
    obtain rfl := h
    exact ⟨⟨rfl, rfl, rfl, rfl⟩, Or.inr rfl⟩
  | id n =>
    obtain rfl := h
    exact ⟨⟨rfl, rfl, rfl, rfl⟩, Or.inl rfl⟩

theorem sameOrigin_after (s : Subscription) (change : Change) : s.SameOrigin (change.after s) := by
  rcases change.after_cases s with hsame | hsets
  · rw [hsame]
    exact SameOrigin.refl s
  · exact hsets.sameOrigin.1

/-- After a change the stamp is the one before it, or the reading of the clock. -/
theorem updatedAt_after (s : Subscription) (change : Change) :
    (change.after s).updatedAt = s.updatedAt ∨
      change.reading? = some (change.after s).updatedAt := by
  rcases change.after_cases s with hsame | hsets
  · rw [hsame]
    exact Or.inl rfl
  · exact hsets.sameOrigin.2

end Change

/-- Another status leaves identifier, origin and end as they are. -/
theorem keeps_of_updateStatus {s s' : Subscription} {code : String} {now : Instant}
    (h : s.updateStatus code now = (.ok (), s')) :
    s'.id = s.id ∧ s.SameOrigin s' ∧ s'.endDate = s.endDate := by
  obtain ⟨status, -, rfl⟩ := updateStatus_eq_ok_iff.mp h
  exact ⟨rfl, ⟨rfl, rfl, rfl, rfl⟩, rfl⟩

/-- So does renewal turned on or off. -/
theorem keeps_of_setAutoRenew {s s' : Subscription} {autoRenew : Bool} {now : Instant}
    (h : ((.ok (), s.setAutoRenew autoRenew now) : Except BillingError Unit × Subscription) =
      (.ok (), s')) :
    s'.id = s.id ∧ s.SameOrigin s' ∧ s'.endDate = s.endDate := by
  cases h
  exact ⟨rfl, ⟨rfl, rfl, rfl, rfl⟩, rfl⟩

/-- No sequence of changes moves a subscription to another user or plan, or to another start. -/
theorem sameOrigin_changed (s : Subscription) (changes : List Change) :
    s.SameOrigin (s.changed changes) := by
  induction changes generalizing s with
  | nil => exact SameOrigin.refl s
  | cons change rest ih => exact (change.sameOrigin_after s).trans (ih (change.after s))

/-! ## Stamps under a clock that does not go back -/

/-- The clock does not go back, from an instant on and over the readings that changes take. -/
def OnwardFrom (t : Instant) (changes : List Change) : Prop :=
  (t :: changes.filterMap Change.reading?).Pairwise fun t u => t.isAfter u = false

/-- A change that reads the clock later than the last stamp leaves a stamp that is not earlier, and
the readings after it are later still. -/
theorem OnwardFrom.after {s : Subscription} {change : Change} {rest : List Change}
    (h : OnwardFrom s.updatedAt (change :: rest)) :
    s.updatedAt.isAfter (change.after s).updatedAt = false ∧
      OnwardFrom (change.after s).updatedAt rest := by
  unfold OnwardFrom at h ⊢
  rcases change.updatedAt_after s with hkept | hread
  · rw [hkept]
    refine ⟨Instant.not_isAfter_self _, h.sublist ?_⟩
    exact ((List.sublist_cons_self change rest).filterMap _).cons_cons _
  · rw [List.filterMap_cons_some hread, List.pairwise_cons] at h
    exact ⟨h.1 _ List.mem_cons_self, h.2⟩

/-- The stamp of the last change does not go back, and the readings still to come are not before
it. -/
theorem OnwardFrom.changed {s : Subscription} {earlier later : List Change}
    (h : OnwardFrom s.updatedAt (earlier ++ later)) :
    s.updatedAt.isAfter (s.changed earlier).updatedAt = false ∧
      OnwardFrom (s.changed earlier).updatedAt later := by
  induction earlier generalizing s with
  | nil => exact ⟨Instant.not_isAfter_self _, h⟩
  | cons change rest ih =>
    obtain ⟨hstep, hrest⟩ := h.after
    obtain ⟨hlast, hlater⟩ := ih hrest
    exact ⟨Instant.not_isAfter_trans hstep hlast, hlater⟩

theorem changed_append (s : Subscription) (earlier later : List Change) :
    s.changed (earlier ++ later) = (s.changed earlier).changed later :=
  List.foldl_append

theorem stamps_of_create {draft : SubscriptionDraft} {now : Instant} {s : Subscription}
    (h : create draft now = .ok s) : s.createdAt = now ∧ s.updatedAt = now := by
  unfold create at h
  split at h
  · cases h
  · cases h
    exact ⟨rfl, rfl⟩

/-- At every point of its life a subscription keeps the rules for drafts, its user, its plan, its
start and the stamp of its creation.  The call for the next change either fails and leaves the
subscription as it found it, stamp and all, or sets its own field and the stamp of the last
change and nothing else.  In a subscription that
was created, and for which the clock has not gone back since, the stamp of the last change
never goes back and never comes before that of its creation. -/
theorem changes_apply_wholly_or_not (s : Subscription) (hs : s.Begins) (changes : List Change) :
    (s.changed changes).draft.Sound ∧ s.SameOrigin (s.changed changes) ∧
      (∀ change,
        (∀ e s', change.apply (s.changed changes) = (.error e, s') →
          s' = s.changed changes ∧ s.changed (changes ++ [change]) = s.changed changes) ∧
        (∀ s', change.apply (s.changed changes) = (.ok (), s') →
          s.changed (changes ++ [change]) = s' ∧ change.Sets (s.changed changes) s')) ∧
      (∀ draft now, create draft now = .ok s → OnwardFrom now changes →
        ∀ earlier later, changes = earlier ++ later →
          s.createdAt.isAfter (s.changed earlier).updatedAt = false ∧
          (s.changed earlier).updatedAt.isAfter (s.changed changes).updatedAt = false) := by
  refine ⟨sound_changed hs.sound changes, sameOrigin_changed s changes, ?_, ?_⟩
  · intro change
    rw [changed_append]
    refine ⟨fun e s' hfails => ?_, fun s' hsets => ?_⟩
    · obtain rfl := Change.eq_of_apply_error hfails
      exact ⟨rfl, Change.after_eq_of_apply hfails⟩
    · exact ⟨Change.after_eq_of_apply hsets, Change.apply_eq_ok_iff.mp hsets⟩
  · rintro draft now hcreate honward earlier later rfl
    obtain ⟨hcreated, hupdated⟩ := stamps_of_create hcreate
    rw [← hupdated] at honward
    obtain ⟨hearlier, hlater⟩ := honward.changed
    rw [hcreated, ← hupdated, changed_append]
    have honly : OnwardFrom (s.changed earlier).updatedAt (later ++ []) := by
      rw [List.append_nil]
      exact hlater
    exact ⟨hearlier, honly.changed.1⟩

/-- A subscription that was created at the epoch and starts there. -/
def debut : Subscription where
  id := .unassigned
  user := ⟨7⟩
  plan := ⟨3⟩
  status := .active
  startDate := .epoch
  endDate := none
  autoRenew := true
  createdAt := .epoch
  updatedAt := .epoch

/-- The debut gets an identifier and a new end, and two changes of it fail; then one more fails, or
one succeeds. -/
theorem debut_keeps_rules :
    let tomorrow : Instant := ⟨86400, 0, by decide, by decide⟩
    let changes : List Change :=
      [.id ⟨1⟩, .status "Lost" .epoch, .endDate tomorrow .epoch, .endDate .unset tomorrow]
    (debut.changed changes).draft.Sound ∧ debut.SameOrigin (debut.changed changes) ∧
      debut.changed (changes ++ [.status "lost" tomorrow]) = debut.changed changes ∧
      Change.Sets (debut.changed changes)
        { debut with
          id := ⟨1⟩, endDate := some tomorrow, autoRenew := false, updatedAt := tomorrow }
        (.autoRenew false tomorrow) ∧
      debut.createdAt.isAfter (debut.changed (changes.take 2)).updatedAt = false ∧
      (debut.changed (changes.take 2)).updatedAt.isAfter (debut.changed changes).updatedAt =
        false := by
  intro tomorrow changes
  have hcreate : create { user := ⟨7⟩, plan := ⟨3⟩, startDate := .epoch, endDate := none } .epoch =
      .ok debut := rfl
  obtain ⟨hsound, horigin, hnext, hstamps⟩ :=
    changes_apply_wholly_or_not debut (.created _ _ hcreate) changes
  have honward : OnwardFrom .epoch changes := by
    unfold OnwardFrom
    decide
  refine ⟨hsound, horigin, ((hnext (.status "lost" tomorrow)).1 _ _ rfl).2,
    ((hnext (.autoRenew false tomorrow)).2 _ rfl).2, ?_⟩
  exact hstamps _ _ hcreate honward (changes.take 2) (changes.drop 2) rfl

end Subscription

end RecurringBilling
