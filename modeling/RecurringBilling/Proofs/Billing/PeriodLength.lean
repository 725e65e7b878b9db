import RecurringBilling.Proofs.Calendar.Rollover

/-!
# How long a period is

A day and a week have their days, a month has as many as its own month, whatever the day it
starts on, and a year has a leap day if one lies ahead within it.  Where a day runs over into the
next month, this is exactly made up for, so a period is a whole number of days long, and it ends
nowhere exactly if that many days lead out of the calendar.
-/

namespace RecurringBilling

open Calendar

namespace Calendar

/-! ## Years from month to month -/

/-- A leap year adds a leap day to those before it. -/
theorem leapDays_succ (year : Int) :
    (year + 1) / 4 - (year + 1) / 100 + (year + 1) / 400 =
      year / 4 - year / 100 + year / 400 + if isLeapYear (year + 1) = true then 1 else 0 := by
  simp only [CivilDate.isLeapYear_iff]
  split <;> omega

/-- A year from the first of a month has its leap day in the February ahead. -/
theorem CivilDate.monthStart_monthIndex_add_twelve {d : CivilDate} (h0 : 1 ≤ d.month)
    (h1 : d.month ≤ 12) :
    monthStart (d.monthIndex + 12) = monthStart d.monthIndex + 365 +
      if isLeapYear (if d.month ≤ 2 then d.year else d.year + 1) = true then 1 else 0 := by
  have hstart := dayNumber_eq_monthStart_add h0 h1
  have hnext := dayNumber_eq_monthStart_add (d := ⟨d.year + 1, d.month, d.day⟩) h0 h1
  have hindex : (d.year + 1) * 12 + ((d.month : Int) - 1) = d.monthIndex + 12 := by
    rw [monthIndex]
    omega
  rw [← monthIndex, dayNumber] at hstart
  rw [hindex, dayNumber] at hnext
  by_cases hwinter : d.month ≤ 2
  · -- the year that started in March ends with the February of this year
    have hleap := leapDays_succ (d.year - 1)
    rw [Int.sub_add_cancel] at hleap
    simp only [hwinter, if_true, Int.add_sub_cancel] at hstart hnext ⊢
    omega
  · have hleap := leapDays_succ d.year
    simp only [hwinter, if_false] at hstart hnext ⊢
    omega

end Calendar

/-! ## The days of a period -/

/-- The number of days of the period that starts on a date. -/
def PlanInterval.daysFrom (d : CivilDate) : PlanInterval → Nat
  | .day => 1
  | .week => 7
  | .month => monthLength d.year d.month
  | .year =>
    if (d.month ≤ 2 ∧ isLeapYear d.year = true) ∨ (3 ≤ d.month ∧ isLeapYear (d.year + 1) = true)
    then 366 else 365

theorem PlanInterval.daysFrom_pos (d : CivilDate) (interval : PlanInterval) :
    0 < interval.daysFrom d := by
  cases interval with
  | day => exact Nat.zero_lt_succ _
  | week => exact Nat.zero_lt_succ _
  | month => exact Nat.lt_of_lt_of_le (by decide) (CivilDate.le_monthLength d.year d.month)
  | year =>
    rw [daysFrom]
    split <;> decide

/-- Outside leap seconds a period ends so many days after its start, if the calendar holds that. -/
theorem periodEnd?_eq_ofParts? {start : Instant} (hnanos : start.nanos < 1000000000)
    (interval : PlanInterval) :
    periodEnd? start interval =
      Instant.ofParts? (start.seconds + interval.daysFrom start.date * 86400) start.nanos := by
  obtain ⟨hmonth0, hmonth1, -, -⟩ := start.exists_date
  cases interval with
  | day => exact if_pos (.inl hnanos)
  | week => exact if_pos (.inl hnanos)
  | month =>
    rw [periodEnd?, Instant.plusMonths?_eq_ofParts?,
      CivilDate.monthStart_monthIndex_succ hmonth0 hmonth1, PlanInterval.daysFrom]
    congr 1
    omega
  | year =>
    rw [periodEnd?, Instant.plusYears?_eq_plusMonths?, Instant.plusMonths?_eq_ofParts?, Int.one_mul,
      CivilDate.monthStart_monthIndex_add_twelve hmonth0 hmonth1, PlanInterval.daysFrom]
    congr 1
    by_cases hwinter : start.date.month ≤ 2
    · simp only [hwinter, if_true, true_and, show ¬3 ≤ start.date.month by omega, false_and,
        or_false]
      split <;> omega
    · simp only [hwinter, if_false, false_and, show 3 ≤ start.date.month by omega, true_and,
        false_or]
      split <;> omega

/-- A period is exactly as long as its days, so it ends after its start, and it ends nowhere
exactly if the calendar does not hold that instant. -/
theorem periods_last_their_days {start : Instant} (hnanos : start.nanos < 1000000000)
    (interval : PlanInterval) :
    (∀ e, periodEnd? start interval = some e →
      e.seconds = start.seconds + interval.daysFrom start.date * 86400 ∧ e.nanos = start.nanos ∧
        start.isBefore e = true) ∧
      (periodEnd? start interval = none ↔
        ¬Representable (start.seconds + interval.daysFrom start.date * 86400)) := by
  rw [periodEnd?_eq_ofParts? hnanos]
  constructor
  · intro e he
    rw [Instant.ofParts?_eq_some_iff] at he
    refine ⟨he.1, he.2, Instant.isBefore_of_seconds_lt ?_⟩
    have hpos := interval.daysFrom_pos start.date
    omega
  · exact Instant.ofParts?_eq_none_iff (.inl hnanos)

/-- The month from January 31, 2024, at a quarter past eight has 31 days and the year from half past
four on February 29 has 366; both run over into March. -/
theorem month_and_year_run_into_march :
    let january : Instant := ⟨1706688900, 0, by decide, by decide⟩
    let leapDay : Instant := ⟨1709224200, 0, by decide, by decide⟩
    january.date = ⟨2024, 1, 31⟩ ∧ leapDay.date = ⟨2024, 2, 29⟩ ∧
      (∃ e, periodEnd? january .month = some e ∧ e.seconds = january.seconds + 31 * 86400 ∧
        e.date = ⟨2024, 3, 2⟩) ∧
      ∃ e, periodEnd? leapDay .year = some e ∧ e.seconds = leapDay.seconds + 366 * 86400 ∧
        e.date = ⟨2025, 3, 1⟩ := by
  intro january leapDay
  let second : Instant := ⟨1709367300, 0, by decide, by decide⟩
  let first : Instant := ⟨1740846600, 0, by decide, by decide⟩
  have hmonth : periodEnd? january .month = some second := by decide
  have hyear : periodEnd? leapDay .year = some first := by decide
  have hnanos : january.nanos < 1000000000 ∧ leapDay.nanos < 1000000000 := by decide
  have hmonthDays := ((periods_last_their_days hnanos.1 .month).1 second hmonth).1
  have hyearDays := ((periods_last_their_days hnanos.2 .year).1 first hyear).1
  exact ⟨by decide, by decide, ⟨second, hmonth, hmonthDays, by decide⟩, first, hyear, hyearDays,
    by decide⟩

end RecurringBilling
