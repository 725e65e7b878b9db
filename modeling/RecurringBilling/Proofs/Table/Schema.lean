import RecurringBilling.Proofs.Plan.PlanNames
import RecurringBilling.Proofs.Plan.Printable
import RecurringBilling.Proofs.Table.PlanRows
import RecurringBilling.Proofs.Table.SubscriptionRows

/-!
# What the tables check

The tables have rules of their own: how long a text may be and that it has no zero character, from
where to where a number goes, which words there are for intervals and statuses, and that nothing
ends before it starts.  The rules of plans are at least as strict, and those of subscriptions
remain so whatever happens to a subscription, so no row that is written is refused for them.
-/

namespace RecurringBilling

open RecurringBilling.Calendar RecurringBilling.Text

/-! ## Texts without a zero character -/

/-- A column for texts can hold the text. -/
def Storable (s : String) : Prop := '\x00' ∉ s.toList

instance (s : String) : Decidable (Storable s) := inferInstanceAs (Decidable ('\x00' ∉ s.toList))

theorem PlanName.admits_text (n : PlanName) : grammar.Admits n.text.toList := by
  rw [grammar.admits_iff, ← (grammar_isCheckedBy.firstBroken _).eq_none_iff]
  exact n.accepted.2

theorem PlanName.storable_text (n : PlanName) : Storable n.text := by
  intro hzero
  have hallowed := grammar_isCheckedBy.isAllowed_iff.mpr (n.admits_text.chars _ hzero)
  have hforeign : rules.isAllowed '\x00' = false := by decide +kernel
  rw [hforeign] at hallowed
  cases hallowed

theorem Description.storable_text (d : Description) : Storable d.text := by
  intro hzero
  have htidy := (flaw?_eq_none_iff.mp d.accepted.2).1
  exact htidy.controls _ hzero (by decide) (by decide)

namespace Currency

/-- Codes have three capital letters. -/
theorem letters_of_listed :
    ∀ info ∈ currencyTable,
      info.code.toList.length = 3 ∧ info.code.toList.all Char.isUpper = true := by
  decide +kernel

theorem length_code (c : Currency) : c.code.length = 3 := by
  rw [← String.length_toList]
  exact (letters_of_listed c.info c.listed).1

theorem storable_code (c : Currency) : Storable c.code := by
  intro hzero
  have hupper := List.all_eq_true.mp (letters_of_listed c.info c.listed).2 _ hzero
  cases hupper

end Currency

theorem PlanInterval.code_mem (i : PlanInterval) : i.code ∈ ["Day", "Week", "Month", "Year"] := by
  cases i <;> decide

theorem PlanInterval.storable_code (i : PlanInterval) : Storable i.code := by
  cases i <;> decide

theorem SubscriptionStatus.code_mem (s : SubscriptionStatus) :
    s.code ∈ ["Active", "Inactive", "Cancelled", "Expired", "PastDue"] := by
  cases s <;> decide

/-! ## Rows of plans -/

namespace PlanRow

/-- The texts in the columns of a row. -/
def texts (r : PlanRow) : List String := r.name :: r.currency :: r.interval :: r.description.toList

/-- The row passes the checks of the plan table. -/
structure MeetsSchema (r : PlanRow) : Prop where
  name : r.name.length ≤ 100
  cents : 0 ≤ r.cents.value ∧ r.cents.value ≤ 999999999
  currency : r.currency.length = 3
  interval : r.interval ∈ ["Day", "Week", "Month", "Year"]
  trialDays : ∀ c, r.trialDays = some c → 0 ≤ c.value ∧ c.value ≤ 30
  texts : ∀ s ∈ r.texts, Storable s

variable {r : PlanRow} {p : Plan}

/-- The texts of a row that records a plan are those of the plan. -/
theorem Records.storable (h : r.Records p) : ∀ s ∈ r.texts, Storable s := by
  intro s hs
  simp only [PlanRow.texts, List.mem_cons, Option.mem_toList, h.name, h.currency, h.interval,
    h.description, Option.map_eq_some_iff] at hs
  rcases hs with rfl | rfl | rfl | ⟨d, -, rfl⟩
  · exact p.terms.name.storable_text
  · exact p.terms.currency.storable_code
  · exact p.terms.interval.storable_code
  · exact d.storable_text

theorem Records.meetsSchema (h : r.Records p) : r.MeetsSchema where
  name := by
    rw [h.name, ← String.length_toList]
    exact p.terms.name.admits_text.length.2
  cents := by
    have hle := p.terms.amount.cents_le
    rw [maxCents] at hle
    rw [h.cents]
    omega
  currency := by
    rw [h.currency]
    exact p.terms.currency.length_code
  interval := by
    rw [h.interval]
    exact p.terms.interval.code_mem
  trialDays := by
    intro c hc
    have hdays := h.trialDays
    rw [hc, Option.map_some] at hdays
    obtain ⟨t, -, ht⟩ := Option.map_eq_some_iff.mp hdays.symm
    have hle := t.days_le
    rw [maxTrialDays] at hle
    omega
  texts := h.storable

end PlanRow

/-! ## Rows of subscriptions -/

namespace SubscriptionRow

/-- The row passes the checks of the subscription table. -/
structure MeetsSchema (r : SubscriptionRow) : Prop where
  status : r.status ∈ ["Active", "Inactive", "Cancelled", "Expired", "PastDue"]
  endDate : ∀ t, r.endDate = some t → t.isBefore r.startDate = false
  user : 0 < r.user.value
  plan : 0 < r.plan.value

variable {r : SubscriptionRow} {s : Subscription}

/-- The rules for drafts are those of the table, the words for statuses apart. -/
theorem Records.meetsSchema (h : r.Records s) (hs : s.draft.Sound) : r.MeetsSchema where
  status := by
    rw [h.status]
    exact s.status.code_mem
  endDate := by
    rw [h.endDate, h.startDate]
    exact hs.ordered
  user := by
    have huser : s.user.value ≠ 0 := by simpa [Subscription.draft, UserId.isAssigned] using hs.user
    rw [h.user]
    omega
  plan := by
    have hplan : s.plan.value ≠ 0 := by simpa [Subscription.draft, PlanId.isAssigned] using hs.plan
    rw [h.plan]
    omega

end SubscriptionRow

/-- Every plan, and every subscription at every point of its life, is written as a row that passes
the checks of its table, if its numbers fit in their columns. -/
theorem written_rows_meet_schema :
    (∀ p : Plan, p.id.value < 2 ^ 63 → ∃ r, PlanRow.ofPlan p = .ok r ∧ r.MeetsSchema) ∧
      ∀ (s t : Subscription) (changes : List Subscription.Change),
        s.Begins → t = s.changed changes → t.id.value < 2 ^ 63 → t.user.value < 2 ^ 63 →
        t.plan.value < 2 ^ 63 →
        ∃ r, SubscriptionRow.ofSubscription t = .ok r ∧ r.MeetsSchema := by
  constructor
  · intro p hid
    obtain ⟨r, hr⟩ := PlanRow.exists_ofPlan hid
    exact ⟨r, hr, (PlanRow.ofPlan_eq_ok_iff.mp hr).meetsSchema⟩
  · rintro s t changes hbegins rfl hid huser hplan
    obtain ⟨r, hr⟩ := SubscriptionRow.exists_ofSubscription
      (SubscriptionRow.tooNarrow?_eq_none_iff.mpr ⟨hid, huser, hplan⟩)
    have hsound := Subscription.sound_changed hbegins.sound changes
    exact ⟨r, hr, (SubscriptionRow.ofSubscription_eq_ok_iff.mp hr).meetsSchema hsound⟩

/-- A plan under the greatest identifier passes, and so does a subscription after changes that
succeed and changes that fail. -/
theorem padded_plan_and_newcomer_meet_schema :
    (∃ r, PlanRow.ofPlan (PlanRow.paddedPlan.withId ⟨2 ^ 63 - 1⟩) = .ok r ∧ r.MeetsSchema) ∧
      ∃ r, SubscriptionRow.ofSubscription
          (SubscriptionRow.newcomer.changed SubscriptionRow.eventful) = .ok r ∧ r.MeetsSchema :=
  ⟨written_rows_meet_schema.1 _ (by decide),
    written_rows_meet_schema.2 SubscriptionRow.newcomer _ SubscriptionRow.eventful
      SubscriptionRow.begins_newcomer rfl (by decide) (by decide) (by decide)⟩

end RecurringBilling
