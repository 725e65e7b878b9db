import RecurringBilling.Proofs.Calendar.Composition

/-!
# The end of the calendar

A period ends outside the calendar exactly if it starts within the last period of the
calendar: within its last day, its last week, its last month, which is a December, or its
last year, which is no leap year.  A day that runs over into the next month never leaves
the calendar, because it does so only where there is a next month.
-/

namespace RecurringBilling

namespace Calendar

namespace CivilDate

/-- The first month of the calendar, counted on over the years. -/
def firstMonth : Int := minYear * 12

/-- The last month of the calendar. -/
def lastMonth : Int := maxYear * 12 + 11

theorem monthStart_firstMonth : monthStart firstMonth * 86400 = minSecond := by decide

theorem monthStart_lastMonth : (monthStart lastMonth + 31) * 86400 = maxSecond + 1 := by decide

theorem monthStart_lastJanuary : (monthStart (lastMonth - 11) + 365) * 86400 = maxSecond + 1 := by
  decide

theorem monthStart_le {i j : Int} (h : i ≤ j) : monthStart i ≤ monthStart j := by
  rcases Int.lt_or_eq_of_le h with hlt | rfl
  · exact Int.le_trans (Int.le_of_lt (monthStart_lt_succ i)) (monthStart_le_of_lt hlt)
  · exact Int.le_refl _

/-- A date lies in a month or a later one if it is not before the first day of that month. -/
theorem le_monthIndex_iff {d : CivilDate} (h : d.Exists) {i : Int} :
    i ≤ d.monthIndex ↔ monthStart i ≤ d.dayNumber := by
  obtain ⟨hbefore, hfrom⟩ := dayNumber_lt_monthStart h
  constructor
  · intro hi
    exact Int.le_trans (monthStart_le hi) hfrom
  · intro hstart
    by_contra hlater
    have hnext := monthStart_le (show d.monthIndex + 1 ≤ i by omega)
    omega

theorem monthLength_le (year : Int) (month : Nat) : monthLength year month ≤ 31 := by
  unfold monthLength
  split
  · split <;> decide
  · split <;> decide

/-- Also a day that runs over is a day of the calendar. -/
theorem dayNumber_monthsLater_bounds {d : CivilDate} (h : d.Exists) {n : Int}
    (hfirst : firstMonth ≤ d.monthIndex + n) (hlast : d.monthIndex + n ≤ lastMonth) :
    monthStart firstMonth ≤ (d.monthsLater n).dayNumber ∧
      (d.monthsLater n).dayNumber < monthStart lastMonth + 31 := by
  have hday0 := h.2.2.1
  have hday1 := Nat.le_trans h.2.2.2 (monthLength_le d.year d.month)
  have hlow := monthStart_le hfirst
  have hhigh := monthStart_le hlast
  rw [dayNumber_monthsLater]
  omega

end CivilDate

namespace Instant

open CivilDate (firstMonth lastMonth monthStart)

/-- The start of the last second of the calendar. -/
def last : Instant := ⟨maxSecond, 0, by decide, by decide⟩

theorem ofParts?_eq_none_iff {seconds : Int} {nanos : Nat} (hnanos : ValidNanos seconds nanos) :
    ofParts? seconds nanos = none ↔ ¬Representable seconds := by
  simp [ofParts?, hnanos]

/-- Days later is outside the calendar if it is after its last second. -/
theorem plusDays?_eq_none_iff {t : Instant} {n : Int} (hn : 0 < n) :
    t.plusDays? n = none ↔ maxSecond < t.seconds + n * 86400 := by
  have hnanos := t.nanos_lt
  have hfirst := t.representable.1
  have hrepresentable : ¬Representable (t.seconds + n * 86400) ↔
      maxSecond < t.seconds + n * 86400 := by
    unfold Representable
    omega
  rw [← hrepresentable, plusDays?, plusSeconds?]
  by_cases hleap : t.nanos < 1000000000
  · rw [if_pos (.inl hleap), ofParts?_eq_none_iff (.inl hleap)]
  · rw [if_neg (by omega), if_pos (by omega), ofParts?_eq_none_iff (.inl (by omega))]

/-- Another day is outside the calendar if its seconds are. -/
theorem onDay?_eq_none_iff {t : Instant} {day : Int} :
    t.onDay? day = none ↔ ¬Representable (day * 86400 + t.secondOfDay) := by
  apply ofParts?_eq_none_iff
  -- days are whole minutes, so a leap second stays at the end of one
  rcases t.validNanos with hplain | ⟨hminute, hleap⟩
  · exact .inl hplain
  · refine .inr ⟨?_, hleap⟩
    unfold secondOfDay
    omega

theorem dayNumber_date (t : Instant) : t.date.dayNumber = t.dayNumber :=
  CivilDate.dayNumber_ofDayNumber t.dayNumber

theorem firstMonth_le (t : Instant) : firstMonth ≤ t.date.monthIndex := by
  have hfirst := t.representable.1
  have hstart := CivilDate.monthStart_firstMonth
  rw [CivilDate.le_monthIndex_iff t.exists_date, dayNumber_date, dayNumber]
  omega

/-- Months away is outside the calendar exactly if the year of the month reached is: also where
the day runs over, the calendar has it. -/
theorem plusMonths?_eq_none_iff_year {t : Instant} {n : Int} :
    t.plusMonths? n = none ↔ ¬(minYear ≤ (t.date.monthIndex + n) / 12 ∧
      (t.date.monthIndex + n) / 12 ≤ maxYear) := by
  rw [plusMonths?_eq]
  by_cases hyear : minYear ≤ (t.date.monthIndex + n) / 12 ∧ (t.date.monthIndex + n) / 12 ≤ maxYear
  · have hfirst : firstMonth ≤ t.date.monthIndex + n := by
      unfold firstMonth
      omega
    have hlast : t.date.monthIndex + n ≤ lastMonth := by
      unfold lastMonth
      omega
    obtain ⟨hlow, hhigh⟩ := CivilDate.dayNumber_monthsLater_bounds t.exists_date hfirst hlast
    have hstart := CivilDate.monthStart_firstMonth
    have hend := CivilDate.monthStart_lastMonth
    have hrepresentable :
        Representable ((t.date.monthsLater n).dayNumber * 86400 + t.secondOfDay) := by
      unfold Representable secondOfDay
      omega
    rw [if_pos hyear, onDay?_eq_none_iff]
    exact ⟨fun h => absurd hrepresentable h, fun h => absurd hyear h⟩
  · rw [if_neg hyear]
    exact ⟨fun _ => hyear, fun _ => rfl⟩

/-- Months later is outside the calendar if it is after its last month. -/
theorem plusMonths?_eq_none_iff {t : Instant} {n : Int} (hn : 0 ≤ n) :
    t.plusMonths? n = none ↔ lastMonth < t.date.monthIndex + n := by
  have hmonth := t.firstMonth_le
  rw [plusMonths?_eq_none_iff_year]
  unfold firstMonth at hmonth
  unfold lastMonth
  omega

/-- An instant lies in a month or a later one if it is not before the first second of that month. -/
theorem le_monthIndex_iff {t : Instant} {i : Int} :
    i ≤ t.date.monthIndex ↔ monthStart i * 86400 ≤ t.seconds := by
  rw [CivilDate.le_monthIndex_iff t.exists_date, dayNumber_date, dayNumber]
  omega

end Instant

end Calendar

open Calendar

/-- The number of days of the last period of the calendar. -/
def PlanInterval.lastDays : PlanInterval → Int
  | .day => 1
  | .week => 7
  | .month => 31
  | .year => 365

/-- A period ends outside the calendar exactly if it starts within the last one of its kind. -/
theorem periodEnd?_eq_none_iff {start : Instant} {interval : PlanInterval} :
    periodEnd? start interval = none ↔ maxSecond < start.seconds + interval.lastDays * 86400 := by
  cases interval with
  | day => exact Instant.plusDays?_eq_none_iff (by decide)
  | week => exact Instant.plusDays?_eq_none_iff (by decide)
  | month =>
    have hlast := CivilDate.monthStart_lastMonth
    have hmonth := Instant.le_monthIndex_iff (t := start) (i := CivilDate.lastMonth)
    rw [periodEnd?, Instant.plusMonths?_eq_none_iff (by decide), PlanInterval.lastDays]
    omega
  | year =>
    have hlast := CivilDate.monthStart_lastJanuary
    have hmonth := Instant.le_monthIndex_iff (t := start) (i := CivilDate.lastMonth - 11)
    rw [periodEnd?, Instant.plusYears?_eq_plusMonths?, Instant.plusMonths?_eq_none_iff (by decide),
      PlanInterval.lastDays]
    omega

end RecurringBilling
