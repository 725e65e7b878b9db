import RecurringBilling.Billing.Error
import RecurringBilling.Calendar.Instant
import RecurringBilling.Plan.Amount
import RecurringBilling.Plan.Interval

/-!
# Plans

A plan has terms that satisfy the rules of their parts, an identifier and the
instants of its creation and last change.  Terms are checked from a draft; the
first part that breaks a rule decides the error.
-/

namespace RecurringBilling

open RecurringBilling.Calendar

/-- The terms of a plan as somebody wrote them down. -/
structure PlanDraft where
  name : String
  description : Option String
  cents : Nat
  currency : String
  trialDays : Option Nat
  interval : String
  deriving DecidableEq, Repr

/-- The terms of a plan.  An empty description counts as none. -/
structure PlanTerms where
  name : PlanName
  description : Option Description
  amount : Amount
  currency : Currency
  trial : Option TrialPeriod
  interval : PlanInterval
  described : ∀ d, description = some d → d.isEmpty = false
  deriving DecidableEq

namespace PlanDraft

/-- The description of a draft: none when it is left out or blank. -/
def checkDescription : Option String → Except BillingError (Option Description)
  | none => .ok none
  | some raw =>
    match Description.ofText raw with
    | .error flaw => .error (.description flaw)
    | .ok d => .ok (if d.isEmpty then none else some d)

/-- The trial of a draft. -/
def checkTrial : Option Nat → Except BillingError (Option TrialPeriod)
  | none => .ok none
  | some days =>
    match TrialPeriod.ofDays days with
    | .error flaw => .error (.trialPeriod flaw)
    | .ok t => .ok (some t)

theorem isEmpty_eq_false_of_checkDescription {raw : Option String} {result : Option Description}
    (h : checkDescription raw = .ok result) (d : Description) (hd : result = some d) :
    d.isEmpty = false := by
  subst hd
  cases raw with
  | none => cases h
  | some raw =>
    rw [checkDescription] at h
    split at h
    · cases h
    · split at h
      · cases h
      · next hne =>
        cases h
        simpa using hne

/-- Checks name, description, amount, currency, trial and interval, in this
order. -/
def check (draft : PlanDraft) : Except BillingError PlanTerms :=
  match PlanName.ofText draft.name with
  | .error flaw => .error (.planName flaw)
  | .ok name =>
    match hd : checkDescription draft.description with
    | .error e => .error e
    | .ok description =>
      match Amount.ofCents? draft.cents with
      | none => .error .amountTooLarge
      | some amount =>
        match Currency.ofText draft.currency with
        | .error flaw => .error (.currency flaw)
        | .ok currency =>
          match checkTrial draft.trialDays with
          | .error e => .error e
          | .ok trial =>
            match PlanInterval.ofCode? draft.interval with
            | none => .error (.unknownInterval draft.interval)
            | some interval =>
              .ok
                { name, description, amount, currency, trial, interval
                  described := isEmpty_eq_false_of_checkDescription hd }

end PlanDraft

/-- A plan that users can subscribe to. -/
structure Plan where
  id : PlanId
  terms : PlanTerms
  createdAt : Instant
  updatedAt : Instant
  deriving DecidableEq

namespace Plan

/-- A new plan that has not been stored. -/
def create (draft : PlanDraft) (now : Instant) : Except BillingError Plan :=
  match draft.check with
  | .error e => .error e
  | .ok terms => .ok { id := .unassigned, terms, createdAt := now, updatedAt := now }

/-- A plan as it was stored, checked once more. -/
def restore (id : PlanId) (draft : PlanDraft) (createdAt updatedAt : Instant) :
    Except BillingError Plan :=
  if id.isAssigned then
    match draft.check with
    | .error e => .error e
    | .ok terms => .ok { id, terms, createdAt, updatedAt }
  else .error .planIdMissing

/-- The plan under the identifier that a store has assigned. -/
def withId (p : Plan) (id : PlanId) : Plan := { p with id }

end Plan

end RecurringBilling
