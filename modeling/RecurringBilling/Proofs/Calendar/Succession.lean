import RecurringBilling.Billing.Period

/-!
# Periods end later than they start

The date of a day number has that day number, and the first days of successive months
have increasing day numbers.  So a month or a year later is later, also where a day
runs over into the next month, and every period ends strictly after its start.
-/

namespace RecurringBilling

namespace Calendar

/-! ## Dates and day numbers -/

namespace CivilDate

/-- The estimate of the year from the day is exact: the day lies in that year. -/
theorem yearOfEra_spec {day year : Int} (h0 : 0 ≤ day) (h1 : day < 146097)
    (hyear : year = (day - day / 1460 + day / 36524 - day / 146096) / 365) :
    0 ≤ year ∧ year ≤ 399 ∧ 365 * year + year / 4 - year / 100 ≤ day ∧
      day ≤ 365 * year + year / 4 - year / 100 + 366 := by
  -- four centuries, and one day over at the end of the last
  have hcentury : day / 36524 = 0 ∨ day / 36524 = 1 ∨ day / 36524 = 2 ∨ day / 36524 = 3 ∨
      day = 146096 := by omega
  have hquarter : year / 4 ≤ day / 1460 := by omega
  have hnextQuarter : day / 1460 ≤ year / 4 + 1 := by omega
  have hhundred : day / 36524 - day / 146096 ≤ year / 100 := by
    rcases hcentury with h | h | h | h | h <;> omega
  have hnextHundred : year / 100 ≤ day / 36524 := by
    rcases hcentury with h | h | h | h | h <;> omega
  refine ⟨by omega, by omega, by omega, by omega⟩

/-- A month that the calendar has, and a day that is not before the first. -/
theorem ofDayNumber_bounds (n : Int) :
    1 ≤ (ofDayNumber n).month ∧ (ofDayNumber n).month ≤ 12 ∧ 1 ≤ (ofDayNumber n).day := by
  have hday0 : 0 ≤ (n + 719468) % 146097 := by omega
  obtain ⟨-, -, hfirst, hlast⟩ := yearOfEra_spec hday0 (by omega) rfl
  simp only [ofDayNumber]
  split <;> omega

/-- An era has 400 years. -/
theorem ofDayNumber_year_bounds (n : Int) :
    400 * ((n + 719468) / 146097) ≤ (ofDayNumber n).year ∧
      (ofDayNumber n).year ≤ 400 * ((n + 719468) / 146097) + 400 := by
  have hday0 : 0 ≤ (n + 719468) % 146097 := by omega
  obtain ⟨hyear0, hyear1, -, -⟩ := yearOfEra_spec hday0 (by omega) rfl
  simp only [ofDayNumber]
  split <;> omega

/-- The day number of a date whose year and month are counted from March. -/
theorem dayNumber_fromMarch {year month : Int} (h0 : 0 ≤ month) (h1 : month ≤ 11) (day : Nat) :
    dayNumber ⟨if month < 10 then year else year + 1,
      (if month < 10 then month + 3 else month - 9).toNat, day⟩ =
      365 * year + year / 4 - year / 100 + year / 400 + (153 * month + 2) / 5 + (day - 1) -
        719468 := by
  by_cases hmonth : month < 10
  · have hafter : ¬(month + 3).toNat ≤ 2 := by omega
    have hback : (((month + 3).toNat : Int) + 9) % 12 = month := by omega
    simp only [dayNumber, hmonth, if_true, hafter, if_false, hback]
  · have hbefore : (month - 9).toNat ≤ 2 := by omega
    have hback : (((month - 9).toNat : Int) + 9) % 12 = month := by omega
    simp only [dayNumber, hmonth, if_false, hbefore, if_true, hback, Int.add_sub_cancel]

theorem dayNumber_ofDayNumber (n : Int) : (ofDayNumber n).dayNumber = n := by
  rw [ofDayNumber]
  have hsplit : n + 719468 = (n + 719468) / 146097 * 146097 + (n + 719468) % 146097 := by omega
  have hday0 : 0 ≤ (n + 719468) % 146097 := by omega
  have hday1 : (n + 719468) % 146097 < 146097 := by omega
  revert hsplit hday0 hday1
  generalize (n + 719468) / 146097 = era
  generalize (n + 719468) % 146097 = day
  intro hsplit hday0 hday1
  obtain ⟨hyear0, hyear1, hfirst, hlast⟩ := yearOfEra_spec hday0 hday1 rfl
  -- from here on only the bounds on the year count, not how it was estimated
  revert hyear0 hyear1 hfirst hlast
  generalize (day - day / 1460 + day / 36524 - day / 146096) / 365 = year
  intro hyear0 hyear1 hfirst hlast
  rw [dayNumber_fromMarch (by omega) (by omega)]
  -- a leap day every 4 years, but not every 100, but every 400
  have hfour : (era * 400 + year) / 4 = era * 100 + year / 4 := by omega
  have hhundred : (era * 400 + year) / 100 = era * 4 + year / 100 := by omega
  have hfourHundred : (era * 400 + year) / 400 = era := by omega
  omega

/-- The day number of the first day of a month, the months counted on over the years. -/
def monthStart (index : Int) : Int := dayNumber ⟨index / 12, (index % 12).toNat + 1, 1⟩

theorem dayNumber_eq_monthStart_add {d : CivilDate} (h0 : 1 ≤ d.month) (h1 : d.month ≤ 12) :
    d.dayNumber = monthStart (d.year * 12 + ((d.month : Int) - 1)) + ((d.day : Int) - 1) := by
  have hyear : (d.year * 12 + ((d.month : Int) - 1)) / 12 = d.year := by omega
  have hmonth : ((d.year * 12 + ((d.month : Int) - 1)) % 12).toNat + 1 = d.month := by omega
  rw [monthStart, hyear, hmonth]
  simp only [dayNumber]
  omega

/-- A month starts after the month before it. -/
theorem monthStart_lt_succ (index : Int) : monthStart index < monthStart (index + 1) := by
  -- either the year changes with the month or it does not
  have hmonth : index % 12 = 11 ∧ (index + 1) % 12 = 0 ∧ (index + 1) / 12 = index / 12 + 1 ∨
      index % 12 < 11 ∧ (index + 1) % 12 = index % 12 + 1 ∧ (index + 1) / 12 = index / 12 := by
    omega
  simp only [monthStart, dayNumber]
  rcases hmonth with ⟨h, h', hyear⟩ | ⟨h, h', hyear⟩
  · rw [h', hyear, h]
    split <;> split <;> omega
  · rw [h', hyear]
    split <;> split <;> omega

theorem monthStart_lt_add (index : Int) (n : Nat) :
    monthStart index < monthStart (index + ((n : Int) + 1)) := by
  induction n with
  | zero => exact monthStart_lt_succ index
  | succ n ih =>
    have hnext := monthStart_lt_succ (index + ((n : Int) + 1))
    rw [Int.add_assoc] at hnext
    exact Int.lt_trans ih hnext

/-! ## Months in 32 bits -/

theorem eq_of_narrow? {n m : Int} (h : narrow? n = some m) : m = n := by
  unfold narrow? at h
  split at h
  · exact (Option.some.inj h).symm
  · cases h

/-- The month reached is the one that an exact count reaches. -/
theorem eq_of_monthReached? {d : CivilDate} {years months index : Int}
    (h : d.monthReached? years months = some index) :
    index = d.year * 12 + ((d.month : Int) - 1) + (years * 12 + months) := by
  obtain ⟨january, hjanuary, h⟩ := Option.bind_eq_some_iff.mp h
  obtain ⟨own, hown, h⟩ := Option.bind_eq_some_iff.mp h
  obtain ⟨span, hspan, h⟩ := Option.bind_eq_some_iff.mp h
  obtain ⟨inYear, hinYear, h⟩ := Option.bind_eq_some_iff.mp h
  rw [eq_of_narrow? h, eq_of_narrow? hinYear, eq_of_narrow? hspan, eq_of_narrow? hown,
    eq_of_narrow? hjanuary]
  omega

end CivilDate

/-! ## Instants -/

namespace Instant

theorem isBefore_of_seconds_lt {t u : Instant} (h : t.seconds < u.seconds) :
    t.isBefore u = true := by
  simp [isBefore, h]

theorem not_isBefore_of_isBefore {t u : Instant} (h : t.isBefore u = true) :
    u.isBefore t = false := by
  simp only [isBefore, Bool.or_eq_true, Bool.and_eq_true, decide_eq_true_eq, beq_iff_eq] at h
  simp only [isBefore, Bool.or_eq_false_iff, Bool.and_eq_false_iff, decide_eq_false_iff_not,
    beq_eq_false_iff_ne]
  omega

theorem isBefore_irrefl (t : Instant) : t.isBefore t = false := by
  simp [isBefore]

theorem isBefore_trans {t u v : Instant} (htu : t.isBefore u = true) (huv : u.isBefore v = true) :
    t.isBefore v = true := by
  simp only [isBefore, Bool.or_eq_true, Bool.and_eq_true, decide_eq_true_eq, beq_iff_eq] at *
  omega

theorem seconds_of_ofParts? {seconds : Int} {nanos : Nat} {e : Instant}
    (h : ofParts? seconds nanos = some e) : e.seconds = seconds := by
  unfold ofParts? at h
  split at h
  · cases h
    rfl
  · cases h

theorem isBefore_of_plusSeconds? {t e : Instant} {n : Int} (hn : 0 < n)
    (h : t.plusSeconds? n = some e) : t.isBefore e = true := by
  apply isBefore_of_seconds_lt
  unfold plusSeconds? at h
  split at h
  · have := seconds_of_ofParts? h
    omega
  · have := seconds_of_ofParts? (by simpa [hn] using h)
    omega

theorem isBefore_of_onDay? {t e : Instant} {day : Int} (hday : t.dayNumber < day)
    (h : t.onDay? day = some e) : t.isBefore e = true := by
  apply isBefore_of_seconds_lt
  have hseconds := seconds_of_ofParts? h
  rw [dayNumber] at hday
  rw [hseconds, secondOfDay]
  omega

theorem isBefore_of_plusCalendar? {t e : Instant} {years months : Int}
    (hlater : 0 < years * 12 + months) (h : t.plusCalendar? years months = some e) :
    t.isBefore e = true := by
  have hmonth0 : 1 ≤ t.date.month := (CivilDate.ofDayNumber_bounds t.dayNumber).1
  have hmonth1 : t.date.month ≤ 12 := (CivilDate.ofDayNumber_bounds t.dayNumber).2.1
  have hdate : t.date.dayNumber = t.dayNumber := CivilDate.dayNumber_ofDayNumber t.dayNumber
  rw [CivilDate.dayNumber_eq_monthStart_add hmonth0 hmonth1] at hdate
  obtain ⟨index, hindex, h⟩ := Option.bind_eq_some_iff.mp h
  obtain ⟨n, hn⟩ : ∃ n : Nat, years * 12 + months = (n : Int) + 1 :=
    ⟨(years * 12 + months - 1).toNat, by omega⟩
  have hstart := CivilDate.monthStart_lt_add (t.date.year * 12 + ((t.date.month : Int) - 1)) n
  rw [← hn, ← CivilDate.eq_of_monthReached? hindex] at hstart
  dsimp only at h
  split at h
  -- the day of the month is kept, so the days are as far apart as the starts of the months
  · refine isBefore_of_onDay? ?_ h
    show t.dayNumber < CivilDate.monthStart index + ((t.date.day : Int) - 1)
    omega
  · cases h

/-- An instant that is not before 1970 has been set. -/
theorem isUnset_of_not_isBefore_epoch {t : Instant} (h : t.isBefore epoch = false) :
    t.isUnset = false := by
  have hseconds : ¬t.seconds < 0 := by
    intro hlt
    rw [isBefore_of_seconds_lt hlt] at h
    cases h
  have hne : t.seconds ≠ -62135596800 := by omega
  simp [isUnset, hne]

end Instant

end Calendar

open Calendar

/-- A period ends after it starts. -/
theorem isBefore_of_periodEnd? {start e : Instant} {interval : PlanInterval}
    (h : periodEnd? start interval = some e) : start.isBefore e = true := by
  cases interval with
  | day => exact Instant.isBefore_of_plusSeconds? (by decide) h
  | week => exact Instant.isBefore_of_plusSeconds? (by decide) h
  | month => exact Instant.isBefore_of_plusCalendar? (by decide) h
  | year => exact Instant.isBefore_of_plusCalendar? (by decide) h

end RecurringBilling
