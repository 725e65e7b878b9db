import RecurringBilling.Program.Basic

/-!
# The catalogue of plans

Plans are added to the catalogue once their terms have passed every check, and
are listed in the order in which they were added.
-/

namespace RecurringBilling

/-- Adds a plan to the catalogue. -/
def createPlan (draft : PlanDraft) : Program (Except BillingError Plan) :=
  .call .clock fun now =>
    match Plan.create draft now with
    | .error e => .done (.error e)
    | .ok plan =>
      .call (.createPlan plan) fun
        | .error f => .done (.error (.ofFailure f))
        | .ok stored => .done (.ok stored)

/-- Lists the catalogue. -/
def listPlans : Program (Except BillingError (List Plan)) :=
  .call .listPlans fun
    | .error f => .done (.error (.ofFailure f))
    | .ok plans => .done (.ok plans)

end RecurringBilling
