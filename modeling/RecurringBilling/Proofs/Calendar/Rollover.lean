import RecurringBilling.Proofs.Calendar.Bounds

/-!
# Days that run over

A step by months or years goes to the same day of the month reached.  Where that month is too
short the day runs over into the month after it, the time of day stays as it is, and the step
leads nowhere exactly if the year reached is outside the calendar: the counts of 32 bits on the
way refuse no month that the calendar has.  Years are twelves of months.  On the first 28 days,
which no month lacks, steps add up and can be taken back; on later days they cannot, since the
months between differ in length.
-/

namespace RecurringBilling

namespace Calendar

namespace CivilDate

/-- The date that a day of a month stands for.  A day that the month does not have is counted on
into the month after it. -/
def rolled (d : CivilDate) : CivilDate :=
  if d.day ≤ monthLength d.year d.month then d
  else
    { year := if d.month = 12 then d.year + 1 else d.year
      month := if d.month = 12 then 1 else d.month + 1
      day := d.day - monthLength d.year d.month }

/-- A day that the month does not have is one of the first days of the month after it. -/
theorem rolled_of_monthLength_lt {d : CivilDate} (h0 : 1 ≤ d.month) (h1 : d.month ≤ 12)
    (hday : monthLength d.year d.month < d.day) :
    (1 ≤ d.rolled.month ∧ d.rolled.month ≤ 12) ∧ d.rolled.monthIndex = d.monthIndex + 1 ∧
      d.rolled.day = d.day - monthLength d.year d.month := by
  have hover := Nat.not_le.mpr hday
  by_cases hdecember : d.month = 12
  · simp only [rolled, if_neg hover, if_pos hdecember, monthIndex, and_true]
    omega
  · simp only [rolled, if_neg hover, if_neg hdecember, monthIndex, and_true]
    omega

/-- A day that runs over is still as many days after the first of its month. -/
theorem dayNumber_rolled {d : CivilDate} (h0 : 1 ≤ d.month) (h1 : d.month ≤ 12) :
    d.rolled.dayNumber = d.dayNumber := by
  by_cases hday : d.day ≤ monthLength d.year d.month
  · rw [rolled, if_pos hday]
  · obtain ⟨⟨hmonth0, hmonth1⟩, hindex, hrest⟩ :=
      rolled_of_monthLength_lt h0 h1 (Nat.not_le.mp hday)
    rw [dayNumber_eq_monthStart_add hmonth0 hmonth1, dayNumber_eq_monthStart_add h0 h1,
      ← monthIndex, ← monthIndex, hindex, monthStart_monthIndex_succ h0 h1, hrest]
    omega

/-- The month after one that is too short for a day has the days that run over. -/
theorem exists_rolled {d : CivilDate} (h0 : 1 ≤ d.month) (h1 : d.month ≤ 12) (hday0 : 1 ≤ d.day)
    (hday1 : d.day ≤ 31) : d.rolled.Exists := by
  by_cases hday : d.day ≤ monthLength d.year d.month
  · rw [rolled, if_pos hday]
    exact ⟨h0, h1, hday0, hday⟩
  · obtain ⟨⟨hmonth0, hmonth1⟩, -, hrest⟩ := rolled_of_monthLength_lt h0 h1 (Nat.not_le.mp hday)
    have hlength := le_monthLength d.year d.month
    have hnext := le_monthLength d.rolled.year d.rolled.month
    exact ⟨hmonth0, hmonth1, by omega, by omega⟩

theorem month_bounds_monthsLater (d : CivilDate) (n : Int) :
    1 ≤ (d.monthsLater n).month ∧ (d.monthsLater n).month ≤ 12 := by
  simp only [monthsLater]
  omega

end CivilDate

namespace Instant

/-! ## Where a step leads -/

/-- The time since midnight is the same. -/
def SameTimeOfDay (t u : Instant) : Prop := u.secondOfDay = t.secondOfDay ∧ u.nanos = t.nanos

/-- What a step by a number of months from an instant has to give, told by the year and the month
reached. -/
structure LandsIn (t : Instant) (year : Int) (month : Nat) (result : Option Instant) : Prop where
  /-- Nothing is reached exactly if the year is outside the calendar. -/
  none_iff : result = none ↔ ¬(minYear ≤ year ∧ year ≤ maxYear)
  /-- What is reached is the same day of the month, running over where the month has it not. -/
  date : ∀ u, result = some u → u.date = CivilDate.rolled ⟨year, month, t.date.day⟩
  /-- The time of day is kept to the nanosecond. -/
  time : ∀ u, result = some u → t.SameTimeOfDay u

/-- A step by months follows the law of the month reached. -/
theorem landsIn_plusMonths? (t : Instant) (n : Int) :
    t.LandsIn (t.date.monthsLater n).year (t.date.monthsLater n).month (t.plusMonths? n) := by
  obtain ⟨hmonth0, hmonth1⟩ := t.date.month_bounds_monthsLater n
  have hday0 := t.exists_date.2.2.1
  have hday1 := Nat.le_trans t.exists_date.2.2.2 (CivilDate.monthLength_le _ _)
  have hparts : ∀ u, t.plusMonths? n = some u →
      u.date = (t.date.monthsLater n).rolled ∧ t.SameTimeOfDay u := by
    intro u hu
    rw [plusMonths?_eq] at hu
    split at hu
    · rw [← CivilDate.dayNumber_rolled hmonth0 hmonth1] at hu
      exact date_of_onDay? (CivilDate.exists_rolled hmonth0 hmonth1 hday0 hday1) hu
    · cases hu
  exact ⟨plusMonths?_eq_none_iff_year, fun u hu => (hparts u hu).1, fun u hu => (hparts u hu).2⟩

/-- Months and years lead to the same day of the month that the exact count of months reaches,
whatever the 32 bits on the way hold, or run over into the month after it. -/
theorem months_and_years_run_over (t : Instant) (n k : Int) :
    (∃ (year : Int) (month : Nat), 1 ≤ month ∧ month ≤ 12 ∧
      year * 12 + month = t.date.year * 12 + t.date.month + n ∧
      t.LandsIn year month (t.plusMonths? n)) ∧
    ∃ (year : Int) (month : Nat), 1 ≤ month ∧ month ≤ 12 ∧
      year * 12 + month = t.date.year * 12 + t.date.month + 12 * k ∧
      t.LandsIn year month (t.plusYears? k) := by
  have hreached : ∀ m, (t.date.monthsLater m).year * 12 + (t.date.monthsLater m).month =
      t.date.year * 12 + t.date.month + m := by
    intro m
    have hindex := t.date.monthIndex_monthsLater m
    simp only [CivilDate.monthIndex] at hindex
    omega
  constructor
  · obtain ⟨hmonth0, hmonth1⟩ := t.date.month_bounds_monthsLater n
    exact ⟨_, _, hmonth0, hmonth1, hreached n, t.landsIn_plusMonths? n⟩
  · obtain ⟨hmonth0, hmonth1⟩ := t.date.month_bounds_monthsLater (12 * k)
    rw [plusYears?_eq_plusMonths?, Int.mul_comm k 12]
    exact ⟨_, _, hmonth0, hmonth1, hreached (12 * k), t.landsIn_plusMonths? (12 * k)⟩

/-! ## Months as days -/

theorem not_representable_of_lastMonth_lt {t : Instant} {n : Int}
    (h : CivilDate.lastMonth < t.date.monthIndex + n) :
    ¬Representable ((t.date.monthsLater n).dayNumber * 86400 + t.secondOfDay) := by
  have hstart := CivilDate.monthStart_le (show CivilDate.lastMonth + 1 ≤ _ from h)
  have hlast : (CivilDate.monthStart (CivilDate.lastMonth + 1)) * 86400 = maxSecond + 1 := by decide
  have hday := t.exists_date.2.2.1
  rw [CivilDate.dayNumber_monthsLater]
  unfold Representable secondOfDay
  omega

theorem not_representable_of_lt_firstMonth {t : Instant} {n : Int}
    (h : t.date.monthIndex + n < CivilDate.firstMonth) :
    ¬Representable ((t.date.monthsLater n).dayNumber * 86400 + t.secondOfDay) := by
  have hstart := CivilDate.monthStart_le
    (show t.date.monthIndex + n ≤ CivilDate.firstMonth - 1 by omega)
  -- the month before the calendar has 31 days, so no day runs over into the calendar
  have hfirst : (CivilDate.monthStart (CivilDate.firstMonth - 1) + 31) * 86400 = minSecond := by
    decide
  have hday := Nat.le_trans t.exists_date.2.2.2 (CivilDate.monthLength_le _ _)
  rw [CivilDate.dayNumber_monthsLater]
  unfold Representable secondOfDay
  omega

/-- A step by months is one by the days between the starts of the months, also across the ends of
the calendar. -/
theorem plusMonths?_eq_ofParts? (t : Instant) (n : Int) :
    t.plusMonths? n = ofParts? (t.seconds + (CivilDate.monthStart (t.date.monthIndex + n) -
      CivilDate.monthStart t.date.monthIndex) * 86400) t.nanos := by
  have hdate := CivilDate.dayNumber_eq_monthStart_add t.exists_date.1 t.exists_date.2.1
  rw [← CivilDate.monthIndex, dayNumber_date, dayNumber] at hdate
  have hseconds : (t.date.monthsLater n).dayNumber * 86400 + t.secondOfDay =
      t.seconds + (CivilDate.monthStart (t.date.monthIndex + n) -
        CivilDate.monthStart t.date.monthIndex) * 86400 := by
    rw [CivilDate.dayNumber_monthsLater, secondOfDay]
    omega
  rw [← hseconds, plusMonths?_eq]
  split
  · rfl
  · next hyear =>
    have houtside : ¬Representable ((t.date.monthsLater n).dayNumber * 86400 + t.secondOfDay) := by
      by_cases hlater : CivilDate.lastMonth < t.date.monthIndex + n
      · exact not_representable_of_lastMonth_lt hlater
      · apply not_representable_of_lt_firstMonth
        unfold CivilDate.lastMonth at hlater
        unfold CivilDate.firstMonth
        omega
    exact (onDay?_eq_none_iff.mpr houtside).symm

/-! ## Away from the end of the month -/

/-- No month is no step. -/
theorem plusMonths?_zero (t : Instant) : t.plusMonths? 0 = some t := by
  rw [plusMonths?_eq_ofParts?, Int.add_zero, ofParts?_eq_some_iff]
  exact ⟨by omega, rfl⟩

/-- On a day that every month has, a step keeps the day of the month and the time of day, a step
after it makes one step with it, and the step back leads back.  On any day twelve months are a
year. -/
theorem months_add_up_away_from_month_ends (t : Instant) :
    (t.date.day ≤ 28 → ∀ a u, t.plusMonths? a = some u →
      u.date.day = t.date.day ∧ t.SameTimeOfDay u ∧
        (∀ b, u.plusMonths? b = t.plusMonths? (a + b)) ∧ u.plusMonths? (-a) = some t) ∧
      ∀ k, t.plusYears? k = t.plusMonths? (12 * k) := by
  constructor
  · intro hday a u hu
    have hexists := CivilDate.exists_monthsLater t.exists_date hday a
    have hadd : ∀ b, u.plusMonths? b = t.plusMonths? (a + b) :=
      fun b => plusMonths?_plusMonths? hexists hu
    have hlands := t.landsIn_plusMonths? a
    have hdate : u.date = t.date.monthsLater a :=
      (hlands.date u hu).trans (if_pos hexists.2.2.2)
    refine ⟨by rw [hdate]; rfl, hlands.time u hu, hadd, ?_⟩
    rw [hadd, Int.add_right_neg, plusMonths?_zero]
  · intro k
    rw [plusYears?_eq_plusMonths?, Int.mul_comm]

/-- From half past twelve on November 28, 2023, a quarter of a second on, three months lead to
February 28 and three months back lead back. -/
theorem three_months_and_back :
    let t : Instant := ⟨1701174600, 250000000, by decide, by decide⟩
    let u : Instant := ⟨1709123400, 250000000, by decide, by decide⟩
    t.date = ⟨2023, 11, 28⟩ ∧ t.plusMonths? 3 = some u ∧ u.date.day = 28 ∧
      u.plusMonths? (-3) = some t := by
  intro t u
  have hthree : t.plusMonths? 3 = some u := by decide
  obtain ⟨hday, -, -, hback⟩ := (months_add_up_away_from_month_ends t).1 (by decide) 3 u hthree
  exact ⟨by decide, hthree, hday, hback⟩

end Instant

end Calendar

end RecurringBilling
