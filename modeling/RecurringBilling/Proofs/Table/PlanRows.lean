import RecurringBilling.Proofs.Plan.Terms
import RecurringBilling.Proofs.Table.Columns
import RecurringBilling.Table.PlanRow

/-!
# Plans in their table

A row records a plan when its columns hold what the plan says.  A plan is written as the
row that records it, and a row is read as the plan that its settled form records: the row
without the blanks around its texts, with nothing for a blank description and for a trial
of no days.  Rows that record a plan are settled, so a plan is read back as it was
written, and a row is written back settled.
-/

namespace RecurringBilling

open RecurringBilling.Text

/-- The columns hold what the plan says. -/
structure PlanRow.Records (r : PlanRow) (p : Plan) : Prop where
  id : r.id.value = p.id.value
  name : r.name = p.terms.name.text
  description : r.description = p.terms.description.map (·.text)
  cents : r.cents.value = p.terms.amount.cents
  currency : r.currency = p.terms.currency.code
  interval : r.interval = p.terms.interval.code
  trialDays : r.trialDays.map (·.value) = p.terms.trial.map fun t => (t.days : Int)
  createdAt : r.createdAt = p.createdAt
  updatedAt : r.updatedAt = p.updatedAt

namespace PlanRow

variable {r : PlanRow} {p : Plan}

/-- The row as it is written back after it was read. -/
def settled (r : PlanRow) : PlanRow :=
  { r with
    name := trimmed r.name
    description := Description.said r.description
    currency := trimmed r.currency
    trialDays := r.trialDays.filter fun c => c.value ≠ 0 }

/-! ## Writing -/

theorem value_trialColumn (t : TrialPeriod) : (trialColumn t).value = t.days := rfl

/-- A plan is written as the row that records it. -/
theorem ofPlan_eq_ok_iff : ofPlan p = .ok r ↔ r.Records p := by
  unfold ofPlan
  constructor
  · intro h
    split at h
    · cases h
    · next id hid =>
      split at h
      · cases h
      · next cents hcents =>
        cases h
        exact
          { id := BigColumn.ofNat_eq_ok_iff.mp hid
            name := rfl
            description := rfl
            cents := BigColumn.ofNat_eq_ok_iff.mp hcents
            currency := rfl
            interval := rfl
            trialDays := by simp [Function.comp_def, value_trialColumn]
            createdAt := rfl
            updatedAt := rfl }
  · obtain ⟨id, name, description, cents, currency, interval, trialDays, createdAt, updatedAt⟩ := r
    rintro ⟨hid, rfl, rfl, hcents, rfl, rfl, htrial, rfl, rfl⟩
    have hcolumn : trialDays = p.terms.trial.map trialColumn := by
      refine Option.map_injective (fun _ _ => Signed.eq_of_value) ?_
      simpa [Function.comp_def, value_trialColumn] using htrial
    rw [BigColumn.ofNat_eq_ok_iff.mpr hid, BigColumn.ofNat_eq_ok_iff.mpr hcents, hcolumn]

theorem exists_ofPlan (h : p.id.value < 2 ^ 63) : ∃ r, ofPlan p = .ok r := by
  have hle : p.terms.amount.cents < 2 ^ 63 := by
    have := p.terms.amount.cents_le
    unfold maxCents at this
    omega
  obtain ⟨id, hid⟩ := BigColumn.exists_value h
  obtain ⟨cents, hcents⟩ := BigColumn.exists_value hle
  unfold ofPlan
  rw [BigColumn.ofNat_eq_ok_iff.mpr hid, BigColumn.ofNat_eq_ok_iff.mpr hcents]
  exact ⟨_, rfl⟩

theorem ofPlan_of_id_too_large (h : 2 ^ 63 ≤ p.id.value) :
    ∃ f, ofPlan p = .error f ∧ f.IsInvalid "id" := by
  unfold ofPlan
  rw [BigColumn.ofNat_of_le "id" h]
  exact ⟨_, rfl, Failure.isInvalid_invalidField _ _⟩

/-! ## Reading -/

theorem readTrial_eq_ok_iff {column : Option SmallColumn} {days : Option Nat} :
    readTrial column = .ok days ↔
      (column.filter fun c => c.value ≠ 0).map (·.value) = days.map fun n : Nat => (n : Int) := by
  cases column with
  | none =>
    rw [readTrial, Except.ok.injEq]
    cases days <;> simp
  | some c =>
    rw [readTrial]
    split
    · next hzero =>
      rw [Except.ok.injEq]
      cases days <;> simp [hzero]
    · next hne =>
      split
      · next hpos =>
        rw [Except.ok.injEq]
        cases days with
        | none => simp [hne]
        | some n => simp [hne]; omega
      · next hneg =>
        cases days with
        | none => simp [hne]
        | some n => simp [hne]; omega

/-- A row is read as the plan that its settled form records. -/
theorem toPlan_eq_ok_iff :
    r.toPlan = .ok p ↔ p.id.isAssigned = true ∧ r.settled.Records p := by
  unfold toPlan
  constructor
  · intro h
    split at h
    · cases h
    · next days hdays =>
      split at h
      · cases h
      · next cents hcents =>
        split at h
        · cases h
        · next id hid =>
          dsimp only at h
          split at h
          · cases h
          · next hplan =>
            cases h
            obtain ⟨hassigned, hpid, hterms, hcreated, hupdated⟩ :=
              Plan.restore_eq_ok_iff.mp hplan
            refine ⟨hpid ▸ hassigned, ?_⟩
            exact
              { id := by rw [hpid]; exact BigColumn.toNat_eq_ok_iff.mp hid
                name := hterms.name.symm
                description := hterms.description.symm
                cents := by rw [hterms.amount]; exact BigColumn.toNat_eq_ok_iff.mp hcents
                currency := hterms.currency.symm
                interval := hterms.interval.symm
                trialDays := by
                  have hread := readTrial_eq_ok_iff.mp hdays
                  have htrial : p.terms.trial.map (·.days) = days := hterms.trial
                  rw [← htrial, Option.map_map] at hread
                  exact hread
                createdAt := hcreated.symm
                updatedAt := hupdated.symm }
  · rintro ⟨hassigned, h⟩
    -- every column is read back as the number of the plan, so the terms render the draft
    have hdays : readTrial r.trialDays = .ok (p.terms.trial.map (·.days)) := by
      rw [readTrial_eq_ok_iff, Option.map_map]
      exact h.trialDays
    have hcents : BigColumn.toNat "amount_cents" r.cents = .ok p.terms.amount.cents :=
      BigColumn.toNat_eq_ok_iff.mpr h.cents
    have hid : BigColumn.toNat "id" r.id = .ok p.id.value := BigColumn.toNat_eq_ok_iff.mpr h.id
    rw [hdays, hcents, hid]
    dsimp only
    have hterms : p.terms.Renders
        { name := r.name
          description := r.description
          cents := p.terms.amount.cents
          currency := r.currency
          trialDays := p.terms.trial.map (·.days)
          interval := r.interval } :=
      { name := h.name.symm
        description := h.description.symm
        amount := rfl
        currency := h.currency.symm
        trial := rfl
        interval := h.interval.symm }
    have hplan : Plan.restore ⟨p.id.value⟩ _ r.createdAt r.updatedAt = .ok p :=
      Plan.restore_eq_ok_iff.mpr
        ⟨hassigned, rfl, hterms, h.createdAt.symm, h.updatedAt.symm⟩
    rw [hplan]

/-! ## The round trip -/

/-- A row that records a plan is settled: its texts are texts of their values, which are
trimmed, and a trial has at least one day. -/
theorem Records.settled_eq (h : r.Records p) : r.settled = r := by
  have hname : trimmed r.name = r.name := by
    rw [h.name]
    exact PlanName.reader.trimmed_text p.terms.name
  have hdescription : Description.said r.description = r.description := by
    rw [h.description]
    exact Description.said_text p.terms.described
  have hcurrency : trimmed r.currency = r.currency := by
    rw [h.currency]
    exact p.terms.currency.trimmed_code
  have htrial : r.trialDays.filter (fun c => c.value ≠ 0) = r.trialDays := by
    cases hcolumn : r.trialDays with
    | none => rfl
    | some c =>
      obtain ⟨t, -, ht⟩ := Option.map_eq_some_iff.mp (h.trialDays.symm.trans (by rw [hcolumn]; rfl))
      have hdays := t.days_pos
      have hne : c.value ≠ 0 := by
        change (t.days : Int) = c.value at ht
        omega
      simp [hne]
  unfold settled
  rw [hname, hdescription, hcurrency, htrial]

theorem Records.toPlan_eq (h : r.Records p) (hassigned : p.id.isAssigned = true) :
    r.toPlan = .ok p := by
  rw [toPlan_eq_ok_iff, h.settled_eq]
  exact ⟨hassigned, h⟩

/-- Plans survive storage: a plan whose identifier fits is read back as it was written, one
whose identifier does not is refused for it, and a row that is read is written back
settled and read as the same plan again.  The parts of a plan carry their rules, so these
are all the plans that can be created or restored. -/
theorem plans_survive_storage :
    (∀ (p : Plan) (id : PlanId), 1 ≤ id.value → id.value < 2 ^ 63 →
        ∃ r, ofPlan (p.withId id) = .ok r ∧ r.toPlan = .ok (p.withId id)) ∧
      (∀ (p : Plan) (id : PlanId), 2 ^ 63 ≤ id.value →
        ∃ f, ofPlan (p.withId id) = .error f ∧ f.IsInvalid "id") ∧
      (∀ (r : PlanRow) (p : Plan), r.toPlan = .ok p →
        ofPlan p = .ok r.settled ∧ r.settled.toPlan = .ok p) := by
  refine ⟨?_, ?_, ?_⟩
  · intro p id hpos hfits
    obtain ⟨r, hr⟩ := exists_ofPlan (p := p.withId id) hfits
    have hassigned : (p.withId id).id.isAssigned = true := by
      simp [Plan.withId, PlanId.isAssigned]
      omega
    exact ⟨r, hr, (ofPlan_eq_ok_iff.mp hr).toPlan_eq hassigned⟩
  · intro p id hlarge
    exact ofPlan_of_id_too_large hlarge
  · intro r p hr
    obtain ⟨hassigned, hrecords⟩ := toPlan_eq_ok_iff.mp hr
    exact ⟨ofPlan_eq_ok_iff.mpr hrecords, hrecords.toPlan_eq hassigned⟩

/-- A row with blanks around its texts, a blank description and a trial of no days. -/
def padded : PlanRow where
  id := ⟨7, by decide, by decide⟩
  name := "  Premium\t"
  description := some " \n"
  cents := ⟨1999, by decide, by decide⟩
  currency := " EUR "
  interval := "Year"
  trialDays := some ⟨0, by decide, by decide⟩
  createdAt := Calendar.Instant.epoch
  updatedAt := Calendar.Instant.epoch

/-- The plan in the padded row. -/
def paddedPlan : Plan where
  id := ⟨7⟩
  terms :=
    { name := ⟨"Premium", by decide +kernel⟩
      description := none
      amount := ⟨1999, by decide⟩
      currency := ⟨⟨"EUR", "ÅLAND ISLANDS", "Euro", "978"⟩, by decide +kernel⟩
      trial := none
      interval := .year
      described := by simp }
  createdAt := Calendar.Instant.epoch
  updatedAt := Calendar.Instant.epoch

theorem toPlan_padded : padded.toPlan = .ok paddedPlan :=
  toPlan_eq_ok_iff.mpr
    ⟨by decide,
      { id := by decide
        name := by decide
        description := by decide
        cents := by decide
        currency := by decide
        interval := by decide
        trialDays := by decide
        createdAt := rfl
        updatedAt := rfl }⟩

/-- The padded row is written back settled; its plan survives under the greatest identifier
of a column and is refused under the next one. -/
theorem padded_plan_survives_storage :
    (∃ r, ofPlan (paddedPlan.withId ⟨2 ^ 63 - 1⟩) = .ok r ∧
        r.toPlan = .ok (paddedPlan.withId ⟨2 ^ 63 - 1⟩)) ∧
      (∃ f, ofPlan (paddedPlan.withId ⟨2 ^ 63⟩) = .error f ∧ f.IsInvalid "id") ∧
      padded.settled.name = "Premium" ∧ padded.settled.description = none ∧
      padded.settled.trialDays = none ∧
      ofPlan paddedPlan = .ok padded.settled ∧ padded.settled.toPlan = .ok paddedPlan :=
  ⟨plans_survive_storage.1 paddedPlan ⟨2 ^ 63 - 1⟩ (by decide) (by decide),
    plans_survive_storage.2.1 paddedPlan ⟨2 ^ 63⟩ (by decide),
    by decide, by decide, by decide,
    plans_survive_storage.2.2 padded paddedPlan toPlan_padded⟩

end PlanRow

end RecurringBilling
