import RecurringBilling.Calendar.Instant
import RecurringBilling.Plan.Interval

/-!
# Billing periods

A period lasts one interval of the plan.  Months and years are those of the
calendar, with days that run over into the next month; weeks and days have a
fixed length.
-/

namespace RecurringBilling

open RecurringBilling.Calendar

/-- The end of the period that starts at an instant, if the calendar holds it. -/
def periodEnd? (start : Instant) : PlanInterval → Option Instant
  | .month => start.plusMonths? 1
  | .year => start.plusYears? 1
  | .week => start.plusDays? 7
  | .day => start.plusDays? 1

/-- The end of the period for the word of an interval; an unknown word stands
for a plan without end. -/
def periodEndOfCode? (start : Instant) (code : String) : Option Instant :=
  (PlanInterval.ofCode? code).bind (periodEnd? start)

end RecurringBilling
