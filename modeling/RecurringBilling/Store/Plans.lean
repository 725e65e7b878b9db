import RecurringBilling.Failure
import RecurringBilling.Plan.Basic
import RecurringBilling.Store.Basic

/-!
# The store of plans

A call gives its outcome and the store after it, also where it is refused.
-/

namespace RecurringBilling

/-- Plans under their identifiers. -/
abbrev PlanStore := Store Plan

namespace PlanStore

/-- No plan has the identifier. -/
def notFound (id : PlanId) : Failure :=
  { code := .planNotFound, message := "plan not found: " ++ id.numeral }

/-- Stores a new plan under the next identifier. -/
def create (s : PlanStore) (plan : Plan) : Except Failure Plan × PlanStore :=
  let (stored, s) := s.add fun id => plan.withId ⟨id⟩
  (.ok stored, s)

/-- Replaces the plan that has the same identifier. -/
def update (s : PlanStore) (plan : Plan) : Except Failure Unit × PlanStore :=
  if s.contains plan.id.value then (.ok (), s.put plan.id.value plan)
  else (.error (notFound plan.id), s)

/-- Removes a plan.  The outcome tells whether there was one. -/
def delete (s : PlanStore) (id : PlanId) : Except Failure Unit × PlanStore :=
  (if s.contains id.value then .ok () else .error (notFound id), s.remove id.value)

/-- Looks a plan up. -/
def findById (s : PlanStore) (id : PlanId) : Option Plan := s.find? id.value

/-- Every plan, in the order of the identifiers. -/
def findAll (s : PlanStore) : List Plan := s.values

/-! ## Refused calls -/

variable {s s' : PlanStore} {f : Failure}

theorem create_ne_error {plan : Plan} : create s plan ≠ (.error f, s') := by
  intro h
  cases h

theorem eq_of_update_error {plan : Plan} (h : update s plan = (.error f, s')) : s' = s := by
  unfold update at h
  split at h
  · cases h
  · cases h
    rfl

theorem eq_of_delete_error {id : PlanId} (h : delete s id = (.error f, s')) : s' = s := by
  unfold delete at h
  split at h
  · cases h
  · next habsent =>
    cases h
    exact Store.remove_of_not_contains (by simpa using habsent)

end PlanStore

end RecurringBilling
