import RecurringBilling.Proofs.Failure.Classification
import RecurringBilling.Proofs.Table.PlanRows
import RecurringBilling.Proofs.Table.SubscriptionRows

/-!
# Rejected rows

A row that breaks a rule is rejected as invalid and named by its identifier.  Two kinds of
rows are rejected in another way.  A row with a negative number is rejected for the first
such column before its rules are looked at, and the failure names that column in place of
the row.  A subscription that ends before it starts names its row, but the failure speaks
of a wrong state.
-/

namespace RecurringBilling

open RecurringBilling.Calendar RecurringBilling.Text

/-! ## Failures and their rows -/

namespace Failure

/-- The failure says that a rule is broken, and tells the row under the given name. -/
def NamesRow (name : String) (id : BigColumn) (f : Failure) : Prop :=
  f.code = .validationFailed ∧ f.detail? name = some id.numeral

/-- The failure says that the value of the named field breaks a rule, and tells nothing else. -/
def NamesOnly (field : String) (f : Failure) : Prop :=
  f.code = .validationFailed ∧ f.details = [("field", field)]

theorem NamesOnly.isInvalid {field : String} {f : Failure} (h : f.NamesOnly field) :
    f.IsInvalid field := by
  refine ⟨h.1, ?_⟩
  rw [detail?, h.2, List.lookup_cons_self]

theorem NamesOnly.detail?_eq_none {field : String} {f : Failure} (h : f.NamesOnly field)
    {name : String} (hname : name ≠ "field") : f.detail? name = none := by
  have hne : (name == "field") = false := beq_eq_false_iff_ne.mpr hname
  rw [detail?, h.2, List.lookup_cons, hne, List.lookup_nil]

end Failure

/-- The failure for a row that breaks a rule names the row exactly if the rule is one of
validation. -/
theorem BillingError.namesRow_iff (e : BillingError) (name : String) (id : BigColumn) :
    (e.toFailure.withDetail name id.numeral).NamesRow name id ↔ e.code = .validationFailed := by
  rw [← e.code_toFailure]
  exact ⟨fun h => h.1, fun h => ⟨h, Failure.detail?_withDetail _ name _⟩⟩

/-! ## Negative columns -/

namespace BigColumn

variable {field : String} {c : BigColumn}

theorem toNat_of_neg (field : String) (h : c.value < 0) :
    ∃ f, toNat field c = .error f ∧ f.NamesOnly field := by
  rw [toNat, if_neg (by omega)]
  exact ⟨_, rfl, rfl, rfl⟩

theorem exists_toNat (field : String) (h : ¬c.value < 0) :
    ∃ n : Nat, toNat field c = .ok n ∧ c.value = n := by
  rw [Int.not_lt] at h
  exact ⟨c.value.toNat, if_pos h, (Int.toNat_of_nonneg h).symm⟩

end BigColumn

/-- The first of the columns that is negative. -/
def firstNegative? (columns : List (String × Int)) : Option String :=
  (columns.find? fun column => decide (column.2 < 0)).map Prod.fst

theorem firstNegative?_cons (field : String) (z : Int) (rest : List (String × Int)) :
    firstNegative? ((field, z) :: rest) = if z < 0 then some field else firstNegative? rest := by
  rw [firstNegative?, List.find?_cons]
  split
  · next h => rw [if_pos (of_decide_eq_true h)]; rfl
  · next h => rw [if_neg (of_decide_eq_false h)]; rfl

theorem firstNegative?_eq_none_iff {columns : List (String × Int)} :
    firstNegative? columns = none ↔ ∀ column ∈ columns, ¬column.2 < 0 := by
  simp [firstNegative?]

/-! ## Rows of plans -/

namespace PlanRow

variable {r : PlanRow} {f : Failure}

/-- The first negative column, in the order in which the columns are read. -/
def negative? (r : PlanRow) : Option String :=
  firstNegative?
    [("trial_period", (r.trialDays.map (·.value)).getD 0), ("amount_cents", r.cents.value),
      ("id", r.id.value)]

theorem negative?_eq (r : PlanRow) :
    r.negative? =
      if (r.trialDays.map (·.value)).getD 0 < 0 then some "trial_period"
      else if r.cents.value < 0 then some "amount_cents"
      else if r.id.value < 0 then some "id"
      else none := by
  rw [negative?, firstNegative?_cons, firstNegative?_cons, firstNegative?_cons]
  rfl

theorem readTrial_of_neg {trial : Option SmallColumn} (h : (trial.map (·.value)).getD 0 < 0) :
    ∃ f, readTrial trial = .error f ∧ f.NamesOnly "trial_period" := by
  cases trial with
  | none => cases h
  | some c =>
    have hneg : c.value < 0 := h
    rw [readTrial, if_neg (by omega), if_neg (by omega)]
    exact ⟨_, rfl, rfl, rfl⟩

theorem exists_readTrial {trial : Option SmallColumn} (h : ¬(trial.map (·.value)).getD 0 < 0) :
    ∃ days, readTrial trial = .ok days := by
  cases trial with
  | none => exact ⟨none, rfl⟩
  | some c =>
    have hsign : ¬c.value < 0 := h
    rw [readTrial]
    split
    · exact ⟨none, rfl⟩
    · rw [if_pos (by omega)]
      exact ⟨_, rfl⟩

/-- A row with a negative column is rejected for the first one. -/
theorem toPlan_of_negative? {field : String} (h : r.negative? = some field) :
    ∃ f, r.toPlan = .error f ∧ f.NamesOnly field := by
  rw [negative?_eq] at h
  unfold toPlan
  split at h
  · next htrial =>
    cases h
    obtain ⟨f, hf, hnames⟩ := readTrial_of_neg htrial
    rw [hf]
    exact ⟨f, rfl, hnames⟩
  · next htrial =>
    obtain ⟨days, hdays⟩ := exists_readTrial htrial
    rw [hdays]
    split at h
    · next hcents =>
      cases h
      obtain ⟨f, hf, hnames⟩ := BigColumn.toNat_of_neg "amount_cents" hcents
      rw [hf]
      exact ⟨f, rfl, hnames⟩
    · next hcents =>
      obtain ⟨cents, hcents, -⟩ := BigColumn.exists_toNat "amount_cents" hcents
      rw [hcents]
      split at h
      · next hid =>
        cases h
        obtain ⟨f, hf, hnames⟩ := BigColumn.toNat_of_neg "id" hid
        rw [hf]
        exact ⟨f, rfl, hnames⟩
      · cases h

/-- A row without a negative column is rejected for a rule of validation, under its identifier. -/
theorem error_of_toPlan (hsign : r.negative? = none) (h : r.toPlan = .error f) :
    ∃ e : BillingError, e.code = .validationFailed ∧
      f = e.toFailure.withDetail "plan_id" r.id.numeral := by
  have hcolumns := firstNegative?_eq_none_iff.mp hsign
  simp only [List.forall_mem_cons, List.not_mem_nil, false_implies, implies_true, and_true]
    at hcolumns
  obtain ⟨htrial, hcents, hid⟩ := hcolumns
  obtain ⟨days, hdays⟩ := exists_readTrial htrial
  obtain ⟨cents, hcents, -⟩ := BigColumn.exists_toNat "amount_cents" hcents
  obtain ⟨id, hid, -⟩ := BigColumn.exists_toNat "id" hid
  rw [toPlan, hdays, hcents, hid] at h
  dsimp only at h
  split at h
  · next hrestore =>
    cases h
    exact ⟨_, Plan.code_of_restore hrestore, rfl⟩
  · cases h

/-- A rejected row of a plan is named unless it has a negative column. -/
theorem namesRow_iff (h : r.toPlan = .error f) :
    f.NamesRow "plan_id" r.id ↔ r.negative? = none := by
  cases hsign : r.negative? with
  | none =>
    obtain ⟨e, hcode, rfl⟩ := error_of_toPlan hsign h
    exact ⟨fun _ => rfl, fun _ => (e.namesRow_iff "plan_id" r.id).mpr hcode⟩
  | some field =>
    obtain ⟨f', hf, hnames⟩ := toPlan_of_negative? hsign
    rw [hf] at h
    cases h
    constructor
    · rintro ⟨-, hrow⟩
      rw [hnames.detail?_eq_none (by decide)] at hrow
      cases hrow
    · intro hnone
      cases hnone

end PlanRow

/-! ## Rows of subscriptions -/

namespace SubscriptionRow

variable {r : SubscriptionRow} {f : Failure}

/-- The first negative column, in the order in which the columns are read. -/
def negative? (r : SubscriptionRow) : Option String :=
  firstNegative? [("user_id", r.user.value), ("plan_id", r.plan.value), ("id", r.id.value)]

/-- The row breaks the rule that the end does not come before the start, and no other one that is
looked at before. -/
structure EndsEarly (r : SubscriptionRow) : Prop where
  id : 0 < r.id.value
  user : 0 < r.user.value
  plan : 0 < r.plan.value
  start : r.startDate.isUnset = false
  ends : ∃ t, r.endDate = some t ∧ t.isBefore r.startDate = true

theorem negative?_eq (r : SubscriptionRow) :
    r.negative? =
      if r.user.value < 0 then some "user_id"
      else if r.plan.value < 0 then some "plan_id"
      else if r.id.value < 0 then some "id"
      else none := by
  rw [negative?, firstNegative?_cons, firstNegative?_cons, firstNegative?_cons]
  rfl

theorem EndsEarly.negative?_eq_none (h : r.EndsEarly) : r.negative? = none := by
  have hid := h.id
  have huser := h.user
  have hplan := h.plan
  rw [negative?_eq, if_neg (by omega), if_neg (by omega), if_neg (by omega)]

/-- A row with a negative column is rejected for the first one. -/
theorem toSubscription_of_negative? {field : String} (h : r.negative? = some field) :
    ∃ f, r.toSubscription = .error f ∧ f.NamesOnly field := by
  rw [negative?_eq] at h
  unfold toSubscription
  split at h
  · next huser =>
    cases h
    obtain ⟨f, hf, hnames⟩ := BigColumn.toNat_of_neg "user_id" huser
    rw [hf]
    exact ⟨f, rfl, hnames⟩
  · next huser =>
    obtain ⟨user, huser, -⟩ := BigColumn.exists_toNat "user_id" huser
    rw [huser]
    split at h
    · next hplan =>
      cases h
      obtain ⟨f, hf, hnames⟩ := BigColumn.toNat_of_neg "plan_id" hplan
      rw [hf]
      exact ⟨f, rfl, hnames⟩
    · next hplan =>
      obtain ⟨plan, hplan, -⟩ := BigColumn.exists_toNat "plan_id" hplan
      rw [hplan]
      split at h
      · next hid =>
        cases h
        obtain ⟨f, hf, hnames⟩ := BigColumn.toNat_of_neg "id" hid
        rw [hf]
        exact ⟨f, rfl, hnames⟩
      · cases h

/-- A row without a negative column is restored from its numbers, and named if that fails. -/
theorem toSubscription_eq_of_negative? (hsign : r.negative? = none) :
    ∃ id user plan : Nat, r.id.value = id ∧ r.user.value = user ∧ r.plan.value = plan ∧
      r.toSubscription =
        (Subscription.restore ⟨id⟩ ⟨⟨user⟩, ⟨plan⟩, r.startDate, r.endDate⟩ r.status r.autoRenew
          r.createdAt r.updatedAt).mapError
            fun e => e.toFailure.withDetail "subscription_id" r.id.numeral := by
  have hcolumns := firstNegative?_eq_none_iff.mp hsign
  simp only [List.forall_mem_cons, List.not_mem_nil, false_implies, implies_true, and_true]
    at hcolumns
  obtain ⟨huser, hplan, hid⟩ := hcolumns
  obtain ⟨user, huser, huservalue⟩ := BigColumn.exists_toNat "user_id" huser
  obtain ⟨plan, hplan, hplanvalue⟩ := BigColumn.exists_toNat "plan_id" hplan
  obtain ⟨id, hid, hidvalue⟩ := BigColumn.exists_toNat "id" hid
  refine ⟨id, user, plan, hidvalue, huservalue, hplanvalue, ?_⟩
  rw [toSubscription, huser, hplan, hid]
  dsimp only
  split
  · next hrestore => rw [hrestore]; rfl
  · next hrestore => rw [hrestore]; rfl

/-- Read as numbers, the row ends early if it has an identifier and its draft ends early. -/
theorem endsEarly_iff {id user plan : Nat} (hid : r.id.value = id) (huser : r.user.value = user)
    (hplan : r.plan.value = plan) :
    r.EndsEarly ↔ (SubscriptionId.mk id).isAssigned = true ∧
      SubscriptionDraft.EndsEarly ⟨⟨user⟩, ⟨plan⟩, r.startDate, r.endDate⟩ := by
  simp only [SubscriptionId.isAssigned, bne_iff_ne]
  constructor
  · intro h
    have hidpos := h.id
    have huserpos := h.user
    have hplanpos := h.plan
    refine ⟨by omega, ?_, ?_, h.start, h.ends⟩
    · simp only [UserId.isAssigned, bne_iff_ne]
      omega
    · simp only [PlanId.isAssigned, bne_iff_ne]
      omega
  · rintro ⟨hidpos, huserpos, hplanpos, hstart, hends⟩
    simp only [UserId.isAssigned, PlanId.isAssigned, bne_iff_ne] at huserpos hplanpos
    exact ⟨by omega, by omega, by omega, hstart, hends⟩

/-- A row that ends early is named, but not as one that breaks a rule of validation. -/
theorem toSubscription_of_endsEarly (h : r.EndsEarly) :
    ∃ f, r.toSubscription = .error f ∧ f.code = .invalidState ∧
      f.detail? "subscription_id" = some r.id.numeral := by
  obtain ⟨id, user, plan, hid, huser, hplan, heq⟩ :=
    toSubscription_eq_of_negative? h.negative?_eq_none
  obtain ⟨hassigned, hdraft⟩ := (endsEarly_iff hid huser hplan).mp h
  rw [heq, Subscription.restore_of_endsEarly hassigned hdraft]
  exact ⟨_, rfl, rfl, Failure.detail?_withDetail _ _ _⟩

/-- A rejected row of a subscription is named unless it has a negative column or ends early. -/
theorem namesRow_iff (h : r.toSubscription = .error f) :
    f.NamesRow "subscription_id" r.id ↔ r.negative? = none ∧ ¬r.EndsEarly := by
  cases hsign : r.negative? with
  | none =>
    obtain ⟨id, user, plan, hid, huser, hplan, heq⟩ := toSubscription_eq_of_negative? hsign
    rw [endsEarly_iff hid huser hplan, and_iff_right rfl]
    rw [heq] at h
    cases hrestore : Subscription.restore ⟨id⟩ ⟨⟨user⟩, ⟨plan⟩, r.startDate, r.endDate⟩ r.status
        r.autoRenew r.createdAt r.updatedAt with
    | ok s =>
      rw [hrestore] at h
      cases h
    | error e =>
      rw [hrestore] at h
      cases h
      rw [BillingError.namesRow_iff, Subscription.code_of_restore hrestore]
  | some field =>
    obtain ⟨f', hf, hnames⟩ := toSubscription_of_negative? hsign
    rw [hf] at h
    cases h
    constructor
    · rintro ⟨-, hrow⟩
      rw [hnames.detail?_eq_none (by decide)] at hrow
      cases hrow
    · rintro ⟨hnone, -⟩
      cases hnone

end SubscriptionRow

/-! ## Rejected rows and their names -/

/-- A row that is rejected is reported as breaking a rule of validation and named by its
identifier, unless it has a negative column or is that of a subscription which ends early.
A row with a negative column is always rejected, for the first such column and without
being named; a subscription that ends early is always rejected, under its name, for a
wrong state. -/
theorem rejected_rows_named_iff (p : PlanRow) (s : SubscriptionRow) :
    (∀ f, p.toPlan = .error f → (f.NamesRow "plan_id" p.id ↔ p.negative? = none)) ∧
      (∀ f, s.toSubscription = .error f →
        (f.NamesRow "subscription_id" s.id ↔ s.negative? = none ∧ ¬s.EndsEarly)) ∧
      (∀ field, p.negative? = some field →
        ∃ f, p.toPlan = .error f ∧ f.IsInvalid field ∧ f.detail? "plan_id" = none) ∧
      (∀ field, s.negative? = some field →
        ∃ f, s.toSubscription = .error f ∧ f.IsInvalid field ∧
          f.detail? "subscription_id" = none) ∧
      (s.EndsEarly → ∃ f, s.toSubscription = .error f ∧ f.code = .invalidState ∧
        f.detail? "subscription_id" = some s.id.numeral) := by
  refine ⟨fun f => PlanRow.namesRow_iff, fun f => SubscriptionRow.namesRow_iff, ?_, ?_,
    SubscriptionRow.toSubscription_of_endsEarly⟩
  · intro field hsign
    obtain ⟨f, hf, hnames⟩ := PlanRow.toPlan_of_negative? hsign
    exact ⟨f, hf, hnames.isInvalid, hnames.detail?_eq_none (by decide)⟩
  · intro field hsign
    obtain ⟨f, hf, hnames⟩ := SubscriptionRow.toSubscription_of_negative? hsign
    exact ⟨f, hf, hnames.isInvalid, hnames.detail?_eq_none (by decide)⟩

/-- The padded row without an identifier. -/
def PlanRow.unnumbered : PlanRow := { padded with id := ⟨0, by decide, by decide⟩ }

/-- The padded row with a negative amount. -/
def PlanRow.indebted : PlanRow := { padded with cents := ⟨-1, by decide, by decide⟩ }

namespace SubscriptionRow

/-- The eventful row with a status that there is not. -/
def lost : SubscriptionRow := { eventfulRow with status := "Lost" }

/-- The eventful row with a negative user. -/
def indebted : SubscriptionRow := { eventfulRow with user := ⟨-7, by decide, by decide⟩ }

/-- The eventful row with an end before its start. -/
def reversed : SubscriptionRow := { eventfulRow with endDate := some Instant.unset }

theorem endsEarly_reversed : reversed.EndsEarly where
  id := by decide
  user := by decide
  plan := by decide
  start := by decide
  ends := ⟨Instant.unset, rfl, by decide⟩

theorem not_endsEarly_lost : ¬lost.EndsEarly := by
  intro h
  obtain ⟨t, ht, -⟩ := h.ends
  cases ht

end SubscriptionRow

/-- Rows without an identifier or with an unknown status are named; a row with a negative amount or
user is not, and a subscription that ends early is refused for its state. -/
theorem rejected_rows_named_or_not :
    (∃ f, PlanRow.unnumbered.toPlan = .error f ∧
        f.NamesRow "plan_id" PlanRow.unnumbered.id) ∧
      (∃ f, SubscriptionRow.lost.toSubscription = .error f ∧
        f.NamesRow "subscription_id" SubscriptionRow.lost.id) ∧
      (∃ f, PlanRow.indebted.toPlan = .error f ∧ f.IsInvalid "amount_cents" ∧
        f.detail? "plan_id" = none) ∧
      (∃ f, SubscriptionRow.indebted.toSubscription = .error f ∧ f.IsInvalid "user_id" ∧
        f.detail? "subscription_id" = none) ∧
      ∃ f, SubscriptionRow.reversed.toSubscription = .error f ∧ f.code = .invalidState ∧
        f.detail? "subscription_id" = some SubscriptionRow.reversed.id.numeral := by
  obtain ⟨hplan, hsubscription, -⟩ :=
    rejected_rows_named_iff PlanRow.unnumbered SubscriptionRow.lost
  obtain ⟨-, -, hplanSign, hsubscriptionSign, -⟩ :=
    rejected_rows_named_iff PlanRow.indebted SubscriptionRow.indebted
  obtain ⟨-, -, -, -, hends⟩ := rejected_rows_named_iff PlanRow.padded SubscriptionRow.reversed
  exact ⟨⟨_, rfl, (hplan _ rfl).mpr (by decide)⟩,
    ⟨_, rfl, (hsubscription _ rfl).mpr ⟨by decide, SubscriptionRow.not_endsEarly_lost⟩⟩,
    hplanSign _ (by decide), hsubscriptionSign _ (by decide),
    hends SubscriptionRow.endsEarly_reversed⟩

/-- Not every rejected row is reported as breaking a rule of validation, and not every one is
named. -/
theorem rejected_row_without_name :
    (∃ f, SubscriptionRow.reversed.toSubscription = .error f ∧
        ¬f.NamesRow "subscription_id" SubscriptionRow.reversed.id) ∧
      ∃ f, PlanRow.indebted.toPlan = .error f ∧ ¬f.NamesRow "plan_id" PlanRow.indebted.id := by
  refine ⟨⟨_, rfl, ?_⟩, ⟨_, rfl, ?_⟩⟩
  · rintro ⟨hcode, -⟩
    cases hcode
  · rintro ⟨-, hname⟩
    exact absurd hname (by decide)

end RecurringBilling
