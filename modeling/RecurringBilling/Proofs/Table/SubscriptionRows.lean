import Mathlib.Algebra.Group.Int.Defs
import RecurringBilling.Proofs.Subscription.Lifecycle
import RecurringBilling.Proofs.Table.Columns
import RecurringBilling.Table.SubscriptionRow

/-!
# Subscriptions in their table

A row records a subscription when its columns hold what the subscription says.  A
subscription is written as the row that records it, unless one of its three numbers is too
large, and a row is read as the sound subscription that it records.  Since a subscription
stays sound whatever happens to it, it can be written and read back at every point of its
life; and as the columns determine each other, a row that is read is written back as it
was.
-/

namespace RecurringBilling

open RecurringBilling.Calendar

/-- The columns hold what the subscription says. -/
structure SubscriptionRow.Records (r : SubscriptionRow) (s : Subscription) : Prop where
  id : r.id.value = s.id.value
  user : r.user.value = s.user.value
  plan : r.plan.value = s.plan.value
  status : r.status = s.status.code
  startDate : r.startDate = s.startDate
  endDate : r.endDate = s.endDate
  autoRenew : r.autoRenew = s.autoRenew
  createdAt : r.createdAt = s.createdAt
  updatedAt : r.updatedAt = s.updatedAt

namespace SubscriptionRow

variable {r : SubscriptionRow} {s : Subscription}

/-! ## Writing -/

/-- The numbers that are written, each with its column, in the order of the columns. -/
def numbers (s : Subscription) : List (String × Nat) :=
  [("id", s.id.value), ("user_id", s.user.value), ("plan_id", s.plan.value)]

/-- The first column that is too narrow for its number. -/
def tooNarrow? (s : Subscription) : Option String :=
  ((numbers s).find? fun column => 2 ^ 63 ≤ column.2).map Prod.fst

theorem tooNarrow?_eq (s : Subscription) :
    tooNarrow? s =
      if 2 ^ 63 ≤ s.id.value then some "id"
      else if 2 ^ 63 ≤ s.user.value then some "user_id"
      else if 2 ^ 63 ≤ s.plan.value then some "plan_id"
      else none := by
  have hfirst : ∀ (field : String) (n : Nat) (rest : List (String × Nat)),
      (((field, n) :: rest).find? fun column => 2 ^ 63 ≤ column.2) =
        if 2 ^ 63 ≤ n then some (field, n) else rest.find? fun column => 2 ^ 63 ≤ column.2 := by
    intro field n rest
    split
    · next hlarge => exact List.find?_cons_of_pos (decide_eq_true hlarge)
    · next hfits => exact List.find?_cons_of_neg fun h => hfits (of_decide_eq_true h)
  rw [tooNarrow?, numbers, hfirst, hfirst, hfirst]
  repeat' split
  all_goals rfl

theorem tooNarrow?_eq_none_iff :
    tooNarrow? s = none ↔
      s.id.value < 2 ^ 63 ∧ s.user.value < 2 ^ 63 ∧ s.plan.value < 2 ^ 63 := by
  rw [tooNarrow?_eq]
  constructor
  · intro h
    split at h
    · cases h
    · split at h
      · cases h
      · split at h
        · cases h
        · omega
  · rintro ⟨hid, huser, hplan⟩
    rw [if_neg (Nat.not_le.mpr hid), if_neg (Nat.not_le.mpr huser), if_neg (Nat.not_le.mpr hplan)]

/-- A subscription is written as the row that records it. -/
theorem ofSubscription_eq_ok_iff : ofSubscription s = .ok r ↔ r.Records s := by
  unfold ofSubscription
  constructor
  · intro h
    split at h
    · cases h
    · next id hid =>
      split at h
      · cases h
      · next user huser =>
        split at h
        · cases h
        · next plan hplan =>
          cases h
          exact
            { id := BigColumn.ofNat_eq_ok_iff.mp hid
              user := BigColumn.ofNat_eq_ok_iff.mp huser
              plan := BigColumn.ofNat_eq_ok_iff.mp hplan
              status := rfl
              startDate := rfl
              endDate := rfl
              autoRenew := rfl
              createdAt := rfl
              updatedAt := rfl }
  · obtain ⟨id, user, plan, status, startDate, endDate, autoRenew, createdAt, updatedAt⟩ := r
    rintro ⟨hid, huser, hplan, rfl, rfl, rfl, rfl, rfl, rfl⟩
    rw [BigColumn.ofNat_eq_ok_iff.mpr hid, BigColumn.ofNat_eq_ok_iff.mpr huser,
      BigColumn.ofNat_eq_ok_iff.mpr hplan]

theorem exists_ofSubscription (h : tooNarrow? s = none) : ∃ r, ofSubscription s = .ok r := by
  obtain ⟨hid, huser, hplan⟩ := tooNarrow?_eq_none_iff.mp h
  obtain ⟨id, hid⟩ := BigColumn.exists_value hid
  obtain ⟨user, huser⟩ := BigColumn.exists_value huser
  obtain ⟨plan, hplan⟩ := BigColumn.exists_value hplan
  unfold ofSubscription
  rw [BigColumn.ofNat_eq_ok_iff.mpr hid, BigColumn.ofNat_eq_ok_iff.mpr huser,
    BigColumn.ofNat_eq_ok_iff.mpr hplan]
  exact ⟨_, rfl⟩

/-- Writing fails for the first column that is too narrow. -/
theorem ofSubscription_of_tooNarrow? {field : String} (h : tooNarrow? s = some field) :
    ∃ f, ofSubscription s = .error f ∧ f.IsInvalid field := by
  rw [tooNarrow?_eq] at h
  unfold ofSubscription
  split at h
  · next hid =>
    cases h
    rw [BigColumn.ofNat_of_le "id" hid]
    exact ⟨_, rfl, Failure.isInvalid_invalidField _ _⟩
  · next hid =>
    obtain ⟨id, hidc⟩ := BigColumn.exists_value (Nat.lt_of_not_le hid)
    rw [BigColumn.ofNat_eq_ok_iff.mpr hidc]
    split at h
    · next huser =>
      cases h
      rw [BigColumn.ofNat_of_le "user_id" huser]
      exact ⟨_, rfl, Failure.isInvalid_invalidField _ _⟩
    · next huser =>
      obtain ⟨user, huserc⟩ := BigColumn.exists_value (Nat.lt_of_not_le huser)
      rw [BigColumn.ofNat_eq_ok_iff.mpr huserc]
      split at h
      · next hplan =>
        cases h
        rw [BigColumn.ofNat_of_le "plan_id" hplan]
        exact ⟨_, rfl, Failure.isInvalid_invalidField _ _⟩
      · cases h

/-! ## Reading -/

/-- A row is read as the sound subscription that it records. -/
theorem toSubscription_eq_ok_iff :
    r.toSubscription = .ok s ↔ s.id.isAssigned = true ∧ s.draft.Sound ∧ r.Records s := by
  unfold toSubscription
  constructor
  · intro h
    split at h
    · cases h
    · next user huser =>
      split at h
      · cases h
      · next plan hplan =>
        split at h
        · cases h
        · next id hid =>
          dsimp only at h
          split at h
          · cases h
          · next hrestore =>
            cases h
            obtain ⟨hassigned, hsound, hsid, hdraft, hstatus, hauto, hcreated, hupdated⟩ :=
              Subscription.restore_eq_ok_iff.mp hrestore
            obtain ⟨hsuser, hsplan, hstart, hend⟩ := SubscriptionDraft.mk.inj hdraft
            refine ⟨hsid ▸ hassigned, hdraft ▸ hsound, ?_⟩
            exact
              { id := by rw [hsid]; exact BigColumn.toNat_eq_ok_iff.mp hid
                user := by rw [hsuser]; exact BigColumn.toNat_eq_ok_iff.mp huser
                plan := by rw [hsplan]; exact BigColumn.toNat_eq_ok_iff.mp hplan
                status := hstatus.symm
                startDate := hstart.symm
                endDate := hend.symm
                autoRenew := hauto.symm
                createdAt := hcreated.symm
                updatedAt := hupdated.symm }
  · rintro ⟨hassigned, hsound, h⟩
    -- the numbers and the code of the status are those of the subscription, which restores as it is
    have huser : BigColumn.toNat "user_id" r.user = .ok s.user.value :=
      BigColumn.toNat_eq_ok_iff.mpr h.user
    have hplan : BigColumn.toNat "plan_id" r.plan = .ok s.plan.value :=
      BigColumn.toNat_eq_ok_iff.mpr h.plan
    have hid : BigColumn.toNat "id" r.id = .ok s.id.value := BigColumn.toNat_eq_ok_iff.mpr h.id
    rw [huser, hplan, hid, h.status, h.startDate, h.endDate, h.autoRenew, h.createdAt,
      h.updatedAt]
    dsimp only
    have hrestore : Subscription.restore ⟨s.id.value⟩ s.draft s.status.code s.autoRenew s.createdAt
        s.updatedAt = .ok s :=
      Subscription.restore_eq_ok_iff.mpr ⟨hassigned, hsound, rfl, rfl, rfl, rfl, rfl, rfl⟩
    rw [Subscription.draft] at hrestore
    rw [hrestore]

/-! ## The round trip -/

/-- Subscriptions survive storage at every point of their life: one whose numbers fit is
read back as it was written, one with a number that does not fit is refused for the first
such column, and a row that is read is written back as it was. -/
theorem subscriptions_survive_storage :
    (∀ (s t : Subscription) (changes : List Subscription.Change),
        s.Begins → t = s.changed changes → 1 ≤ t.id.value → t.id.value < 2 ^ 63 →
        t.user.value < 2 ^ 63 → t.plan.value < 2 ^ 63 →
        ∃ r, ofSubscription t = .ok r ∧ r.toSubscription = .ok t) ∧
      (∀ s : Subscription,
        2 ^ 63 ≤ s.id.value ∨ 2 ^ 63 ≤ s.user.value ∨ 2 ^ 63 ≤ s.plan.value →
        ∃ field f, tooNarrow? s = some field ∧ ofSubscription s = .error f ∧ f.IsInvalid field) ∧
      (∀ (r : SubscriptionRow) (s : Subscription),
        r.toSubscription = .ok s → ofSubscription s = .ok r) := by
  refine ⟨?_, ?_, ?_⟩
  · rintro s t changes hbegins rfl hpos hid huser hplan
    obtain ⟨r, hr⟩ := exists_ofSubscription (tooNarrow?_eq_none_iff.mpr ⟨hid, huser, hplan⟩)
    have hassigned : (s.changed changes).id.isAssigned = true := by
      simp [SubscriptionId.isAssigned]
      omega
    have hsound := Subscription.sound_changed hbegins.sound changes
    exact ⟨r, hr, toSubscription_eq_ok_iff.mpr
      ⟨hassigned, hsound, ofSubscription_eq_ok_iff.mp hr⟩⟩
  · intro s hlarge
    cases hfield : tooNarrow? s with
    | none =>
      have := tooNarrow?_eq_none_iff.mp hfield
      omega
    | some field =>
      obtain ⟨f, hf, hinvalid⟩ := ofSubscription_of_tooNarrow? hfield
      exact ⟨field, f, rfl, hf, hinvalid⟩
  · intro r s hr
    exact ofSubscription_eq_ok_iff.mpr (toSubscription_eq_ok_iff.mp hr).2.2

/-- A subscription that has just been created. -/
def newcomer : Subscription where
  id := .unassigned
  user := ⟨7⟩
  plan := ⟨3⟩
  status := .active
  startDate := Instant.epoch
  endDate := none
  autoRenew := true
  createdAt := Instant.epoch
  updatedAt := Instant.epoch

theorem begins_newcomer : newcomer.Begins :=
  .created { user := ⟨7⟩, plan := ⟨3⟩, startDate := Instant.epoch, endDate := none } Instant.epoch
    rfl

/-- Changes of which two fail: no status has that name, and the end would precede the start. -/
def eventful : List Subscription.Change :=
  [.id ⟨2 ^ 63 - 1⟩, .status "Cancelled" Instant.epoch, .status "Lost" Instant.epoch,
    .endDate Instant.unset Instant.epoch, .autoRenew false Instant.epoch]

/-- The row that records the newcomer after the changes. -/
def eventfulRow : SubscriptionRow where
  id := ⟨2 ^ 63 - 1, by decide, by decide⟩
  user := ⟨(7 : Nat), by decide, by decide⟩
  plan := ⟨3, by decide, by decide⟩
  status := "Cancelled"
  startDate := Instant.epoch
  endDate := none
  autoRenew := false
  createdAt := Instant.epoch
  updatedAt := Instant.epoch

theorem toSubscription_eventfulRow :
    eventfulRow.toSubscription = .ok (newcomer.changed eventful) :=
  rfl

/-- The newcomer survives storage after changes that succeed and changes that fail; with numbers
of a user and a plan that are both too large it is refused for the user. -/
theorem newcomer_survives_storage :
    (∃ r, ofSubscription (newcomer.changed eventful) = .ok r ∧
        r.toSubscription = .ok (newcomer.changed eventful)) ∧
      tooNarrow? { newcomer with user := ⟨2 ^ 63⟩, plan := ⟨2 ^ 63⟩ } = some "user_id" ∧
      (∃ field f, tooNarrow? { newcomer with user := ⟨2 ^ 63⟩, plan := ⟨2 ^ 63⟩ } = some field ∧
        ofSubscription { newcomer with user := ⟨2 ^ 63⟩, plan := ⟨2 ^ 63⟩ } = .error f ∧
        f.IsInvalid field) ∧
      ofSubscription (newcomer.changed eventful) = .ok eventfulRow :=
  ⟨subscriptions_survive_storage.1 newcomer _ eventful begins_newcomer rfl (by decide) (by decide)
      (by decide) (by decide),
    by decide,
    subscriptions_survive_storage.2.1 _ (by decide),
    subscriptions_survive_storage.2.2 eventfulRow _ toSubscription_eventfulRow⟩

end SubscriptionRow

end RecurringBilling
