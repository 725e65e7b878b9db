import Mathlib.Data.List.Nodup
import RecurringBilling.Plan.Basic
import RecurringBilling.Proofs.Text.Reader

/-!
# Terms and their drafts

A draft passes the check exactly when there are terms that say the same: word for word
but for the blanks around a text, with no description in place of a blank one.  Each part
is tied to what was written down by one equation, so the parts can be read off the terms
and put into a draft again.
-/

namespace RecurringBilling

open RecurringBilling.Calendar RecurringBilling.Text

/-! ## Names and descriptions -/

/-- The reader of plan names. -/
def PlanName.reader : Reader PlanName.Flaw PlanName where
  flaw? := flaw?
  text := text
  ofText := ofText
  text_inj := by
    rintro ⟨a, _⟩ ⟨b, _⟩ h
    cases h
    rfl
  accepted := accepted
  refuses := by
    intro raw flaw h
    unfold ofText
    split <;> simp_all
  reads := by
    intro raw h
    unfold ofText
    split
    · simp_all
    · exact ⟨_, rfl, rfl⟩

/-- The reader of descriptions. -/
def Description.reader : Reader Description.Flaw Description where
  flaw? := flaw?
  text := text
  ofText := ofText
  text_inj := by
    rintro ⟨a, _⟩ ⟨b, _⟩ h
    cases h
    rfl
  accepted := accepted
  refuses := by
    intro raw flaw h
    unfold ofText
    split <;> simp_all
  reads := by
    intro raw h
    unfold ofText
    split
    · simp_all
    · exact ⟨_, rfl, rfl⟩

theorem PlanName.ofText_eq_ok_iff {raw : String} {n : PlanName} :
    ofText raw = .ok n ↔ n.text = trimmed raw :=
  reader.ofText_eq_ok_iff

theorem Description.ofText_eq_ok_iff {raw : String} {d : Description} :
    ofText raw = .ok d ↔ d.text = trimmed raw :=
  reader.ofText_eq_ok_iff

/-- What a description says: nothing where it is left out or blank. -/
def Description.said (raw : Option String) : Option String :=
  raw.bind fun text => if trimmed text = "" then none else some (trimmed text)

theorem Description.isEmpty_eq_false_iff {d : Description} : d.isEmpty = false ↔ d.text ≠ "" := by
  rw [isEmpty, List.isEmpty_eq_false_iff, Ne, String.toList_eq_nil_iff]

/-- A blank text is a description that says nothing. -/
theorem Description.ofText_of_trimmed_eq {raw : String} (h : trimmed raw = "") :
    ∃ d, ofText raw = .ok d ∧ d.isEmpty = true :=
  ⟨⟨"", by decide⟩, ofText_eq_ok_iff.mpr h.symm, rfl⟩

theorem Description.said_text {d : Option Description} (hd : ∀ x, d = some x → x.isEmpty = false) :
    said (d.map (·.text)) = d.map (·.text) := by
  cases d with
  | none => rfl
  | some x =>
    have hne := isEmpty_eq_false_iff.mp (hd x rfl)
    have htrim := reader.trimmed_text x
    change trimmed x.text = x.text at htrim
    simp [said, htrim, hne]

namespace PlanDraft

theorem checkDescription_eq_ok_iff {raw : Option String} {d : Option Description}
    (hd : ∀ x, d = some x → x.isEmpty = false) :
    checkDescription raw = .ok d ↔ d.map (·.text) = Description.said raw := by
  cases raw with
  | none =>
    rw [checkDescription, Except.ok.injEq, Description.said, Option.bind_none,
      Option.map_eq_none_iff]
    exact eq_comm
  | some raw =>
    rw [checkDescription, Description.said, Option.bind_some]
    by_cases hblank : trimmed raw = ""
    · obtain ⟨e, he, hempty⟩ := Description.ofText_of_trimmed_eq hblank
      rw [he, if_pos hblank, Option.map_eq_none_iff]
      simp only [hempty, if_true, Except.ok.injEq]
      exact eq_comm
    · rw [if_neg hblank, Option.map_eq_some_iff]
      constructor
      · intro h
        split at h
        · cases h
        · next e he =>
          have htext := Description.ofText_eq_ok_iff.mp he
          have hne : e.isEmpty = false := by
            rw [Description.isEmpty_eq_false_iff, htext]
            exact hblank
          rw [hne] at h
          cases h
          exact ⟨e, rfl, htext⟩
      · rintro ⟨e, rfl, htext⟩
        rw [Description.ofText_eq_ok_iff.mpr htext]
        simp [hd e rfl]

end PlanDraft

/-! ## Currencies -/

namespace Currency

/-- Codes have three bytes and no blanks around them. -/
theorem code_of_listed :
    ∀ info ∈ currencyTable,
      byteLength info.code.toList = 3 ∧ trim info.code.toList = info.code.toList := by
  decide +kernel

/-- No two rows of the table share a code. -/
theorem nodup_codes : (currencyTable.map (·.code)).Nodup := by
  decide +kernel

theorem eq_of_code {a b : Currency} (h : a.code = b.code) : a = b := by
  have hinfo : a.info = b.info := List.inj_on_of_nodup_map nodup_codes a.listed b.listed h
  cases a
  cases b
  cases hinfo
  rfl

theorem code_of_ofCode? {code : String} {c : Currency} (h : ofCode? code = some c) :
    c.code = code := by
  unfold ofCode? at h
  split at h
  · next hfind =>
    cases h
    have hcode := List.find?_some hfind
    exact eq_of_beq hcode
  · cases h

/-- A currency is the one that its code stands for. -/
theorem ofCode?_code (c : Currency) : ofCode? c.code = some c := by
  cases h : ofCode? c.code with
  | some d => rw [eq_of_code (code_of_ofCode? h)]
  | none =>
    unfold ofCode? at h
    split at h
    · cases h
    · next hfind =>
      have hne := List.find?_eq_none.mp hfind c.info c.listed
      simp [code] at hne

theorem ofCode?_eq_some_iff {code : String} {c : Currency} :
    ofCode? code = some c ↔ c.code = code :=
  ⟨code_of_ofCode?, fun h => h ▸ ofCode?_code c⟩

theorem ofText_eq_ok_iff {raw : String} {c : Currency} :
    ofText raw = .ok c ↔ c.code = trimmed raw := by
  unfold ofText
  dsimp only
  constructor
  · intro h
    split at h
    · cases h
    · split at h
      · cases h
      · split at h
        · next hcode =>
          cases h
          exact code_of_ofCode? hcode
        · cases h
  · intro h
    have hlength := (code_of_listed c.info c.listed).1
    have hfound := ofCode?_eq_some_iff.mpr h
    change byteLength c.code.toList = 3 at hlength
    rw [h, toList_trimmed] at hlength
    have hne : (trim raw.toList).isEmpty = false := by
      cases hs : trim raw.toList with
      | nil => rw [hs] at hlength; cases hlength
      | cons _ _ => rfl
    rw [trimmed] at hfound
    simp [hne, hlength, hfound]

theorem trimmed_code (c : Currency) : trimmed c.code = c.code :=
  trimmed_of_trim_eq (code_of_listed c.info c.listed).2

end Currency

/-! ## Amounts, trials and intervals -/

theorem Amount.ofCents?_eq_some_iff {cents : Nat} {a : Amount} :
    ofCents? cents = some a ↔ a.cents = cents := by
  obtain ⟨n, hn⟩ := a
  unfold ofCents?
  split
  · rw [Option.some.injEq, Amount.mk.injEq]
    exact eq_comm
  · next hlarge =>
    constructor
    · intro h
      cases h
    · rintro rfl
      exact absurd hn hlarge

theorem TrialPeriod.ofDays_eq_ok_iff {days : Nat} {t : TrialPeriod} :
    ofDays days = .ok t ↔ t.days = days := by
  obtain ⟨n, hpos, hle⟩ := t
  unfold ofDays
  split
  · split
    · rw [Except.ok.injEq, TrialPeriod.mk.injEq]
      exact eq_comm
    · next hlong =>
      constructor
      · intro h
        cases h
      · rintro rfl
        exact absurd hle hlong
  · next hshort =>
    constructor
    · intro h
      cases h
    · rintro rfl
      exact absurd hpos hshort

theorem PlanInterval.ofCode?_eq_some_iff {code : String} {i : PlanInterval} :
    ofCode? code = some i ↔ i.code = code := by
  constructor
  · intro h
    unfold ofCode? at h
    repeat' split at h
    all_goals cases h
    all_goals exact Eq.symm ‹_›
  · rintro rfl
    exact ofCode?_code i

theorem PlanDraft.checkTrial_eq_ok_iff {days : Option Nat} {t : Option TrialPeriod} :
    checkTrial days = .ok t ↔ t.map (·.days) = days := by
  cases days with
  | none =>
    rw [checkTrial, Except.ok.injEq, Option.map_eq_none_iff]
    exact eq_comm
  | some days =>
    rw [checkTrial, Option.map_eq_some_iff]
    constructor
    · intro h
      split at h
      · cases h
      · next u hu =>
        cases h
        exact ⟨u, rfl, TrialPeriod.ofDays_eq_ok_iff.mp hu⟩
    · rintro ⟨u, rfl, hu⟩
      rw [TrialPeriod.ofDays_eq_ok_iff.mpr hu]

/-! ## Terms -/

/-- The terms say what the draft says. -/
structure PlanTerms.Renders (terms : PlanTerms) (draft : PlanDraft) : Prop where
  name : terms.name.text = trimmed draft.name
  description : terms.description.map (·.text) = Description.said draft.description
  amount : terms.amount.cents = draft.cents
  currency : terms.currency.code = trimmed draft.currency
  trial : terms.trial.map (·.days) = draft.trialDays
  interval : terms.interval.code = draft.interval

/-- The check passes a draft exactly with the terms that say what it says. -/
theorem PlanDraft.check_eq_ok_iff {draft : PlanDraft} {terms : PlanTerms} :
    draft.check = .ok terms ↔ terms.Renders draft := by
  constructor
  · intro h
    unfold check at h
    split at h
    · cases h
    · next name hname =>
      split at h
      · cases h
      · next description hd =>
        split at h
        · cases h
        · next amount hamount =>
          split at h
          · cases h
          · next currency hcurrency =>
            split at h
            · cases h
            · next trial htrial =>
              split at h
              · cases h
              · next interval hinterval =>
                cases h
                exact
                  { name := PlanName.ofText_eq_ok_iff.mp hname
                    description :=
                      (checkDescription_eq_ok_iff (isEmpty_eq_false_of_checkDescription hd)).mp hd
                    amount := Amount.ofCents?_eq_some_iff.mp hamount
                    currency := Currency.ofText_eq_ok_iff.mp hcurrency
                    trial := checkTrial_eq_ok_iff.mp htrial
                    interval := PlanInterval.ofCode?_eq_some_iff.mp hinterval }
  · intro h
    have hname := PlanName.ofText_eq_ok_iff.mpr h.name
    have hdescription := (checkDescription_eq_ok_iff terms.described).mpr h.description
    have hamount := Amount.ofCents?_eq_some_iff.mpr h.amount
    have hcurrency := Currency.ofText_eq_ok_iff.mpr h.currency
    have htrial := checkTrial_eq_ok_iff.mpr h.trial
    have hinterval := PlanInterval.ofCode?_eq_some_iff.mpr h.interval
    unfold check
    rw [hname]
    dsimp only
    -- the check of the description carries its own proof along, which a rewrite cannot reach
    split
    · next hd => rw [hdescription] at hd; cases hd
    · next hd =>
      rw [hdescription] at hd
      cases hd
      rw [hamount, hcurrency, htrial, hinterval]

theorem Plan.restore_eq_ok_iff {id : PlanId} {draft : PlanDraft} {createdAt updatedAt : Instant}
    {p : Plan} :
    restore id draft createdAt updatedAt = .ok p ↔
      id.isAssigned = true ∧ p.id = id ∧ p.terms.Renders draft ∧
        p.createdAt = createdAt ∧ p.updatedAt = updatedAt := by
  unfold restore
  constructor
  · intro h
    split at h
    · next hid =>
      split at h
      · cases h
      · next terms hterms =>
        cases h
        exact ⟨hid, rfl, PlanDraft.check_eq_ok_iff.mp hterms, rfl, rfl⟩
    · cases h
  · obtain ⟨pid, terms, created, updated⟩ := p
    rintro ⟨hid, rfl, hterms, rfl, rfl⟩
    rw [if_pos hid, PlanDraft.check_eq_ok_iff.mpr hterms]

/-! ## What is wrong with a draft -/

namespace PlanDraft

variable {e : BillingError}

theorem code_of_checkDescription {raw : Option String} (h : checkDescription raw = .error e) :
    e.code = .validationFailed := by
  unfold checkDescription at h
  split at h
  · cases h
  · split at h
    · cases h
      rfl
    · cases h

theorem code_of_checkTrial {days : Option Nat} (h : checkTrial days = .error e) :
    e.code = .validationFailed := by
  unfold checkTrial at h
  split at h
  · cases h
  · split at h
    · cases h
      rfl
    · cases h

/-- Whatever is wrong with a draft is a matter of validation. -/
theorem code_of_check {draft : PlanDraft} (h : draft.check = .error e) :
    e.code = .validationFailed := by
  unfold check at h
  split at h
  · cases h
    rfl
  · split at h
    · next hdescription =>
      cases h
      exact code_of_checkDescription hdescription
    · split at h
      · cases h
        rfl
      · split at h
        · cases h
          rfl
        · split at h
          · next htrial =>
            cases h
            exact code_of_checkTrial htrial
          · split at h
            · cases h
              rfl
            · cases h

end PlanDraft

theorem Plan.code_of_restore {id : PlanId} {draft : PlanDraft} {createdAt updatedAt : Instant}
    {e : BillingError} (h : restore id draft createdAt updatedAt = .error e) :
    e.code = .validationFailed := by
  unfold restore at h
  split at h
  · split at h
    · next hcheck =>
      cases h
      exact PlanDraft.code_of_check hcheck
    · cases h
  · cases h
    rfl

end RecurringBilling
