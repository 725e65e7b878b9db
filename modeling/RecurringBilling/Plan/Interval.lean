import RecurringBilling.Json.Value

/-!
# Plan intervals

A plan is charged once per day, week, month or year.
-/

namespace RecurringBilling

/-- The length of the period that one charge pays for. -/
inductive PlanInterval where
  | day
  | week
  | month
  | year
  deriving DecidableEq, Repr

namespace PlanInterval

/-- The word for the interval. -/
def code : PlanInterval → String
  | .day => "Day"
  | .week => "Week"
  | .month => "Month"
  | .year => "Year"

/-- The interval that a word stands for, letter by letter. -/
def ofCode? (code : String) : Option PlanInterval :=
  if code = "Day" then some .day
  else if code = "Week" then some .week
  else if code = "Month" then some .month
  else if code = "Year" then some .year
  else none

/-- Reads the interval from JSON. -/
def ofJson? (v : Json) : Option PlanInterval := v.caseName?.bind ofCode?

theorem ofCode?_code (i : PlanInterval) : ofCode? i.code = some i := by
  cases i <;> decide

end PlanInterval

end RecurringBilling
