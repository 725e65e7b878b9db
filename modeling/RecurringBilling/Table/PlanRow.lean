import RecurringBilling.Plan.Basic
import RecurringBilling.Table.Column

/-!
# Rows of the plan table

A plan is written column by column and read back through the same checks as a
draft, so that a row which breaks a rule never becomes a plan.  A trial of zero
days in a row means that there is none.
-/

namespace RecurringBilling

open RecurringBilling.Calendar RecurringBilling.Text

/-- A row of the plan table. -/
structure PlanRow where
  id : BigColumn
  name : String
  description : Option String
  cents : BigColumn
  currency : String
  interval : String
  trialDays : Option SmallColumn
  createdAt : Instant
  updatedAt : Instant
  deriving DecidableEq

namespace PlanRow

/-- The column of a trial; thirty days always fit. -/
def trialColumn (t : TrialPeriod) : SmallColumn :=
  ⟨t.days, by have := t.days_pos; omega, by have := t.days_le; simp [maxTrialDays] at this; omega⟩

/-- Writes a plan. -/
def ofPlan (p : Plan) : Except Failure PlanRow :=
  match BigColumn.ofNat "id" p.id.value with
  | .error f => .error f
  | .ok id =>
    match BigColumn.ofNat "amount_cents" p.terms.amount.cents with
    | .error f => .error f
    | .ok cents =>
      .ok
        { id
          name := p.terms.name.text
          description := p.terms.description.map (·.text)
          cents
          currency := p.terms.currency.code
          interval := p.terms.interval.code
          trialDays := p.terms.trial.map trialColumn
          createdAt := p.createdAt
          updatedAt := p.updatedAt }

/-- The days of a trial column: none for zero. -/
def readTrial : Option SmallColumn → Except Failure (Option Nat)
  | none => .ok none
  | some c =>
    if c.value = 0 then .ok none
    else if 0 < c.value then .ok (some c.value.toNat)
    else .error (.invalidField "trial_period" ("negative trial period: " ++ c.numeral))

/-- Reads a plan.  A row whose numbers can be read but whose plan breaks a rule
is named by its identifier. -/
def toPlan (r : PlanRow) : Except Failure Plan :=
  match readTrial r.trialDays with
  | .error f => .error f
  | .ok trialDays =>
    match BigColumn.toNat "amount_cents" r.cents with
    | .error f => .error f
    | .ok cents =>
      match BigColumn.toNat "id" r.id with
      | .error f => .error f
      | .ok id =>
        let draft : PlanDraft :=
          { name := r.name
            description := r.description
            cents
            currency := r.currency
            trialDays
            interval := r.interval }
        match Plan.restore ⟨id⟩ draft r.createdAt r.updatedAt with
        | .error e => .error (e.toFailure.withDetail "plan_id" r.id.numeral)
        | .ok plan => .ok plan

end PlanRow

end RecurringBilling
