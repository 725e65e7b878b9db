import Mathlib.Tactic.IntervalCases
import RecurringBilling.Proofs.Billing.Periods

/-!
# Steps of the calendar add up

A date that exists is the date of its day number, so a step that lands on a day that its
month has keeps the day of the month.  Days add up always, months as long as the day is one
that every month has, and years unless the day is a leap day.  In these cases one period
after the other leads to where all of them lead in one step.
-/

namespace RecurringBilling

namespace Calendar

/-! ## Dates that exist -/

namespace CivilDate

theorem isLeapYear_iff (year : Int) :
    isLeapYear year = true ↔ year % 4 = 0 ∧ (year % 100 ≠ 0 ∨ year % 400 = 0) := by
  simp [isLeapYear]

/-- The estimate of the year from the day is not too low: the day lies before the next year. -/
theorem lt_next_yearOfEra {day year : Int} (h0 : 0 ≤ day) (h1 : day < 146097)
    (hyear : year = (day - day / 1460 + day / 36524 - day / 146096) / 365) :
    day < 365 * (year + 1) + (year + 1) / 4 - (year + 1) / 100 + (year + 1) / 400 := by
  by_cases hend : day = 146096
  · subst hend
    omega
  have hera : day / 146096 = 0 := by omega
  have hquarter : day / 1460 ≤ (year + 1) / 4 := by omega
  have hcentury : year / 100 = day / 36524 := by
    have hcases : day / 36524 = 0 ∨ day / 36524 = 1 ∨ day / 36524 = 2 ∨ day / 36524 = 3 := by omega
    rcases hcases with h | h | h | h <;> omega
  by_cases hlast : year % 100 = 99
  · -- the last year of a century ends with the century
    omega
  · have hnext : (year + 1) / 100 = year / 100 := by omega
    omega

/-- Counted from March, the days of a year fall into months of their lengths. -/
theorem day_le_monthLength {year dayOfYear : Int} (h0 : 0 ≤ dayOfYear) (h1 : dayOfYear ≤ 365)
    (hleap : dayOfYear = 365 → isLeapYear (year + 1) = true) {month : Int}
    (hmonth : month = (5 * dayOfYear + 2) / 153) :
    dayOfYear - (153 * month + 2) / 5 + 1 ≤
      monthLength (if month < 10 then year else year + 1)
        (if month < 10 then month + 3 else month - 9).toNat := by
  have hlow : 0 ≤ month := by omega
  have hhigh : month < 12 := by omega
  have hfrom : 153 * month ≤ 5 * dayOfYear + 2 := by omega
  have hto : 5 * dayOfYear + 2 < 153 * month + 153 := by omega
  clear hmonth
  by_cases hlast : month = 11
  · subst hlast
    -- February has the last days, and a day more in a leap year
    simp only [monthLength]
    cases hbool : isLeapYear (year + 1) with
    | true => simp [hbool]; omega
    | false =>
      have hshort : dayOfYear ≠ 365 := fun h => by
        rw [hleap h] at hbool
        cases hbool
      simp [hbool]
      omega
  · interval_cases month <;> simp [monthLength] <;> omega

/-- Every day number is that of a date that exists. -/
theorem exists_ofDayNumber (n : Int) : (ofDayNumber n).Exists := by
  obtain ⟨hmonth0, hmonth1, hday⟩ := ofDayNumber_bounds n
  refine ⟨hmonth0, hmonth1, hday, ?_⟩
  have hday0 : 0 ≤ (n + 719468) % 146097 := by omega
  have hday1 : (n + 719468) % 146097 < 146097 := by omega
  simp only [ofDayNumber]
  revert hday0 hday1
  generalize (n + 719468) / 146097 = era
  generalize (n + 719468) % 146097 = day
  intro hday0 hday1
  obtain ⟨hyear0, hyear1, hfirst, -⟩ := yearOfEra_spec hday0 hday1 rfl
  have hnext := lt_next_yearOfEra hday0 hday1 rfl
  revert hyear0 hyear1 hfirst hnext
  generalize (day - day / 1460 + day / 36524 - day / 146096) / 365 = year
  intro hyear0 hyear1 hfirst hnext
  have hleap : day - (365 * year + year / 4 - year / 100) = 365 →
      isLeapYear (era * 400 + year + 1) = true := by
    intro hlast
    have hfourth : (year + 1) % 4 = 0 := by
      by_contra hne
      have hinner : year ≠ 399 := by
        rintro rfl
        exact hne rfl
      have hsame : (year + 1) / 4 = year / 4 ∧ (year + 1) / 400 = 0 := by omega
      have hmono : year / 100 ≤ (year + 1) / 100 := by omega
      omega
    have hcentury : (year + 1) % 100 = 0 → year = 399 := by
      intro hzero
      have hsteps : (year + 1) / 100 = year / 100 + 1 ∧ (year + 1) / 4 = year / 4 + 1 := by omega
      omega
    rw [isLeapYear_iff]
    omega
  have hlength := day_le_monthLength (by omega) (by omega) hleap rfl
  omega

/-- A month ends where the next one starts. -/
theorem monthStart_succ (index : Int) :
    monthStart (index + 1)
      = monthStart index + monthLength (index / 12) ((index % 12).toNat + 1) := by
  have hleap := isLeapYear_iff (index / 12)
  have hsplit : index = index / 12 * 12 + index % 12 := by omega
  have hlow : 0 ≤ index % 12 := by omega
  have hhigh : index % 12 < 12 := by omega
  rw [monthStart, monthStart]
  revert hleap hsplit hlow hhigh
  generalize index / 12 = year
  generalize index % 12 = month
  rintro hleap rfl hlow hhigh
  have hyear : (year * 12 + month + 1) / 12 = if month = 11 then year + 1 else year := by
    split <;> omega
  have hmonth : (year * 12 + month + 1) % 12 = if month = 11 then 0 else month + 1 := by
    split <;> omega
  rw [hyear, hmonth]
  -- only the length of February depends on the year
  cases hbool : isLeapYear year with
  | true =>
    have hyes := hleap.mp hbool
    interval_cases month <;> simp [dayNumber, monthLength, hbool] <;> omega
  | false =>
    have hno : ¬(year % 4 = 0 ∧ (year % 100 ≠ 0 ∨ year % 400 = 0)) := fun h => by
      rw [hleap.mpr h] at hbool
      cases hbool
    interval_cases month <;> simp [dayNumber, monthLength, hbool] <;> omega

/-- The months counted on over the years. -/
def monthIndex (d : CivilDate) : Int := d.year * 12 + ((d.month : Int) - 1)

theorem monthStart_le_of_lt {i j : Int} (h : i < j) : monthStart (i + 1) ≤ monthStart j := by
  obtain ⟨n, rfl⟩ : ∃ n : Nat, j = i + 1 + n := ⟨(j - (i + 1)).toNat, by omega⟩
  cases n with
  | zero => simp
  | succ n => exact Int.le_of_lt (monthStart_lt_add (i + 1) n)

/-- The month of a date is as long as its year has it. -/
theorem monthStart_monthIndex_succ {d : CivilDate} (h0 : 1 ≤ d.month) (h1 : d.month ≤ 12) :
    monthStart (d.monthIndex + 1) = monthStart d.monthIndex + monthLength d.year d.month := by
  have hyear : d.monthIndex / 12 = d.year := by
    rw [monthIndex]
    omega
  have hmonth : (d.monthIndex % 12).toNat + 1 = d.month := by
    rw [monthIndex]
    omega
  rw [monthStart_succ, hyear, hmonth]

/-- Dates that exist lie within their months. -/
theorem dayNumber_lt_monthStart {d : CivilDate} (h : d.Exists) :
    d.dayNumber < monthStart (d.monthIndex + 1) ∧ monthStart d.monthIndex ≤ d.dayNumber := by
  obtain ⟨hmonth0, hmonth1, hday0, hday1⟩ := h
  have hstart := dayNumber_eq_monthStart_add hmonth0 hmonth1
  rw [← monthIndex] at hstart
  rw [monthStart_monthIndex_succ hmonth0 hmonth1]
  omega

/-- Dates that exist have day numbers of their own. -/
theorem dayNumber_inj {d d' : CivilDate} (h : d.Exists) (h' : d'.Exists)
    (hsame : d.dayNumber = d'.dayNumber) : d = d' := by
  have hd := dayNumber_lt_monthStart h
  have hd' := dayNumber_lt_monthStart h'
  have hindex : d.monthIndex = d'.monthIndex := by
    -- in different months the days would lie in different months
    rcases Int.lt_trichotomy d.monthIndex d'.monthIndex with hlt | heq | hlt
    · have hle := monthStart_le_of_lt hlt
      omega
    · exact heq
    · have hle := monthStart_le_of_lt hlt
      omega
  have hday := dayNumber_eq_monthStart_add h.1 h.2.1
  have hday' := dayNumber_eq_monthStart_add h'.1 h'.2.1
  rw [← monthIndex] at hday hday'
  rw [hindex] at hday
  obtain ⟨hmonth0, hmonth1, -, -⟩ := h
  obtain ⟨hmonth0', hmonth1', -, -⟩ := h'
  obtain ⟨year, month, day⟩ := d
  obtain ⟨year', month', day'⟩ := d'
  simp only [monthIndex] at *
  simp only [mk.injEq]
  omega

/-- A date that exists is the date of its day number. -/
theorem ofDayNumber_dayNumber {d : CivilDate} (h : d.Exists) : ofDayNumber d.dayNumber = d :=
  dayNumber_inj (exists_ofDayNumber _) h (dayNumber_ofDayNumber _)

/-! ## Months later -/

/-- The same day a number of months later, whether or not that month has it. -/
def monthsLater (d : CivilDate) (n : Int) : CivilDate :=
  ⟨(d.monthIndex + n) / 12, ((d.monthIndex + n) % 12).toNat + 1, d.day⟩

theorem monthIndex_monthsLater (d : CivilDate) (n : Int) :
    (d.monthsLater n).monthIndex = d.monthIndex + n := by
  simp only [monthsLater, monthIndex]
  omega

theorem monthsLater_monthsLater (d : CivilDate) (m n : Int) :
    (d.monthsLater m).monthsLater n = d.monthsLater (m + n) := by
  rw [monthsLater, monthIndex_monthsLater, Int.add_assoc]
  rfl

theorem dayNumber_monthsLater (d : CivilDate) (n : Int) :
    (d.monthsLater n).dayNumber = monthStart (d.monthIndex + n) + ((d.day : Int) - 1) := by
  simp only [monthsLater, monthStart, dayNumber]
  omega

/-- In 32 bits a month of the calendar is reached if it is so many years later or so many
months later, but a number on the way may be too large if it is both. -/
theorem monthReached?_of_reached {d : CivilDate} {years months : Int} (hmonth0 : 1 ≤ d.month)
    (hmonth1 : d.month ≤ 12) (hyear : d.year.natAbs ≤ 1000000) (hone : years = 0 ∨ months = 0)
    (hreached : minYear ≤ (d.monthIndex + (years * 12 + months)) / 12 ∧
      (d.monthIndex + (years * 12 + months)) / 12 ≤ maxYear) :
    d.monthReached? years months = some (d.monthIndex + (years * 12 + months)) := by
  rw [monthIndex, minYear, maxYear] at hreached
  have hjanuary : narrow? (d.year * 12) = some (d.year * 12) := if_pos (by omega)
  have hown : narrow? (d.year * 12 + ((d.month : Int) - 1)) = some d.monthIndex :=
    if_pos (by omega)
  have hspan : narrow? (years * 12) = some (years * 12) := if_pos (by omega)
  have hinYear : narrow? (d.monthIndex + years * 12) = some (d.monthIndex + years * 12) := by
    apply if_pos
    rw [monthIndex]
    omega
  have hlast : narrow? (d.monthIndex + years * 12 + months) =
      some (d.monthIndex + years * 12 + months) := by
    apply if_pos
    rw [monthIndex]
    omega
  rw [← Int.add_assoc]
  simp only [monthReached?, hjanuary, hown, hspan, hinYear, hlast, Option.bind_eq_bind,
    Option.bind_some]

theorem le_monthLength (year : Int) (month : Nat) : 28 ≤ monthLength year month := by
  unfold monthLength
  split
  · split <;> decide
  · split <;> decide

/-- Every month has the first 28 days. -/
theorem exists_monthsLater {d : CivilDate} (h : d.Exists) (hday : d.day ≤ 28) (n : Int) :
    (d.monthsLater n).Exists := by
  have hlength := le_monthLength ((d.monthIndex + n) / 12) (((d.monthIndex + n) % 12).toNat + 1)
  refine ⟨?_, ?_, h.2.2.1, Nat.le_trans hday hlength⟩
  all_goals simp only [monthsLater]
  · omega
  · omega

/-- Every year has the days that are not leap days. -/
theorem exists_yearsLater {d : CivilDate} (h : d.Exists) (hday : ¬(d.month = 2 ∧ d.day = 29))
    (n : Int) : (d.monthsLater (n * 12)).Exists := by
  obtain ⟨hmonth0, hmonth1, hday0, hday1⟩ := h
  have hsame : d.monthsLater (n * 12) = ⟨d.year + n, d.month, d.day⟩ := by
    simp only [monthsLater, monthIndex, mk.injEq, and_true]
    omega
  rw [hsame]
  refine ⟨hmonth0, hmonth1, hday0, ?_⟩
  show d.day ≤ monthLength (d.year + n) d.month
  unfold monthLength at hday1 ⊢
  by_cases hfebruary : d.month = 2
  · rw [if_pos hfebruary] at hday1 ⊢
    have hne : d.day ≠ 29 := fun h => hday ⟨hfebruary, h⟩
    split at hday1 <;> split <;> omega
  · rw [if_neg hfebruary] at hday1 ⊢
    exact hday1

end CivilDate

/-! ## Instants -/

namespace Instant

theorem ofParts?_eq_some_iff {seconds : Int} {nanos : Nat} {e : Instant} :
    ofParts? seconds nanos = some e ↔ e.seconds = seconds ∧ e.nanos = nanos := by
  constructor
  · intro h
    unfold ofParts? at h
    split at h
    · cases h
      exact ⟨rfl, rfl⟩
    · cases h
  · rintro ⟨rfl, rfl⟩
    exact dif_pos ⟨e.representable, e.validNanos⟩

theorem nanos_lt (t : Instant) : t.nanos < 2000000000 := by
  rcases t.validNanos with h | h <;> omega

/-- Two steps forward are one. -/
theorem plusSeconds?_plusSeconds? {t u : Instant} {m n : Int} (hm : 0 < m) (hn : 0 < n)
    (hu : t.plusSeconds? m = some u) : u.plusSeconds? n = t.plusSeconds? (m + n) := by
  have hnanos := t.nanos_lt
  unfold plusSeconds? at hu ⊢
  by_cases hleap : t.nanos < 1000000000
  · rw [if_pos (.inl hleap), ofParts?_eq_some_iff] at hu
    rw [hu.1, hu.2, if_pos (.inl hleap), if_pos (.inl hleap), Int.add_assoc]
  · -- a step out of a leap second leads into an ordinary one
    rw [if_neg (by omega), if_pos hm, ofParts?_eq_some_iff] at hu
    rw [hu.1, hu.2, if_pos (.inl (by omega)), if_neg (by omega), if_pos (by omega), Int.add_assoc]

theorem plusDays?_plusDays? {t u : Instant} {m n : Int} (hm : 0 < m) (hn : 0 < n)
    (hu : t.plusDays? m = some u) : u.plusDays? n = t.plusDays? (m + n) := by
  rw [plusDays?, plusSeconds?_plusSeconds? (by omega) (by omega) hu, plusDays?, Int.add_mul]

/-- The date on another day, at the same time of day. -/
theorem date_of_onDay? {t u : Instant} {d : CivilDate} (hd : d.Exists)
    (hu : t.onDay? d.dayNumber = some u) :
    u.date = d ∧ u.secondOfDay = t.secondOfDay ∧ u.nanos = t.nanos := by
  rw [onDay?, ofParts?_eq_some_iff] at hu
  have hday : u.dayNumber = d.dayNumber := by
    rw [dayNumber, hu.1, secondOfDay]
    omega
  refine ⟨?_, ?_, hu.2⟩
  · rw [date, hday, CivilDate.ofDayNumber_dayNumber hd]
  · rw [secondOfDay, hu.1, secondOfDay]
    omega

theorem exists_date (t : Instant) : t.date.Exists := CivilDate.exists_ofDayNumber t.dayNumber

theorem natAbs_year_le (t : Instant) : t.date.year.natAbs ≤ 1000000 := by
  have hera := CivilDate.ofDayNumber_year_bounds t.dayNumber
  have hfirst := t.representable.1
  have hlast := t.representable.2
  rw [minSecond] at hfirst
  rw [maxSecond] at hlast
  simp only [date, dayNumber] at hera ⊢
  omega

/-- A step by years or by months leads to the day of the month reached that is counted like the
day it comes from, if the calendar has the month. -/
theorem plusCalendar?_eq (t : Instant) {years months : Int} (hone : years = 0 ∨ months = 0) :
    t.plusCalendar? years months =
      if minYear ≤ (t.date.monthIndex + (years * 12 + months)) / 12 ∧
          (t.date.monthIndex + (years * 12 + months)) / 12 ≤ maxYear then
        t.onDay? (t.date.monthsLater (years * 12 + months)).dayNumber
      else none := by
  obtain ⟨hmonth0, hmonth1, -, -⟩ := t.exists_date
  by_cases hreached : minYear ≤ (t.date.monthIndex + (years * 12 + months)) / 12 ∧
      (t.date.monthIndex + (years * 12 + months)) / 12 ≤ maxYear
  · rw [plusCalendar?, CivilDate.monthReached?_of_reached hmonth0 hmonth1 t.natAbs_year_le hone
      hreached, CivilDate.dayNumber_monthsLater]
    rfl
  · -- also if 32 bits do not hold the month, it lies outside the calendar
    rw [if_neg hreached, plusCalendar?]
    cases hindex : t.date.monthReached? years months with
    | none => rfl
    | some index =>
      rw [CivilDate.monthIndex, ← CivilDate.eq_of_monthReached? hindex] at hreached
      exact if_neg hreached

theorem plusMonths?_eq (t : Instant) (n : Int) :
    t.plusMonths? n =
      if minYear ≤ (t.date.monthIndex + n) / 12 ∧ (t.date.monthIndex + n) / 12 ≤ maxYear then
        t.onDay? (t.date.monthsLater n).dayNumber
      else none := by
  rw [plusMonths?, t.plusCalendar?_eq (.inl rfl), Int.zero_mul, Int.zero_add]

/-- Twelve months are a year. -/
theorem plusYears?_eq_plusMonths? (t : Instant) (n : Int) :
    t.plusYears? n = t.plusMonths? (n * 12) := by
  rw [plusYears?, t.plusCalendar?_eq (.inr rfl), plusMonths?_eq, Int.add_zero]

/-- Months add up where the first step lands on a day that its month has. -/
theorem plusMonths?_plusMonths? {t u : Instant} {m n : Int} (hd : (t.date.monthsLater m).Exists)
    (hu : t.plusMonths? m = some u) : u.plusMonths? n = t.plusMonths? (m + n) := by
  rw [plusMonths?_eq] at hu
  split at hu
  · obtain ⟨hdate, hsecond, hnanos⟩ := date_of_onDay? hd hu
    rw [plusMonths?_eq, plusMonths?_eq, hdate, CivilDate.monthIndex_monthsLater,
      CivilDate.monthsLater_monthsLater, Int.add_assoc, onDay?, hsecond, hnanos]
    rfl
  · cases hu

/-- A step forward of some days is no longer than the calendar. -/
theorem addDays_of_plusDays? {t u : Instant} {n : Int} (hn : 0 < n) (hu : t.plusDays? n = some u) :
    t.addDays n = .ok (some u) := by
  have hspan : n.natAbs ≤ maxSpanDays.natAbs := by
    have ht := t.representable.1
    have hu' := u.representable.2
    have hseconds : u.seconds = t.seconds + n * 86400 := by
      unfold plusDays? plusSeconds? at hu
      split at hu
      · exact (ofParts?_eq_some_iff.mp hu).1
      · exact (ofParts?_eq_some_iff.mp (by simpa [hn] using hu)).1
    simp only [minSecond, maxSecond, maxSpanDays] at ht hu' ⊢
    omega
  rw [addDays, if_pos hspan, hu]

end Instant

end Calendar

open Calendar

/-! ## Periods -/

section Periods

variable {interval : PlanInterval} {start x : Instant} {n : Nat}

/-- Steps that a period carries on lead to where one period after the other leads. -/
theorem eq_of_advance {f : Nat → Option Instant} (hfirst : periodEnd? start interval = f 0)
    (hnext : ∀ n y, f n = some y → periodEnd? y interval = f (n + 1))
    (h : advance interval (n + 1) start = some x) : f n = some x := by
  induction n generalizing x with
  | zero =>
    rw [← hfirst]
    exact h
  | succ n ih =>
    obtain ⟨y, hy, hx⟩ := Option.bind_eq_some_iff.mp h
    rw [← hnext n y (ih hy), hx]

theorem addDays_of_advance (h : advance .day (n + 1) start = some x) :
    start.addDays ((n : Int) + 1) = .ok (some x) := by
  refine Instant.addDays_of_plusDays? (by omega) ?_
  refine eq_of_advance (f := fun n => start.plusDays? ((n : Int) + 1)) rfl ?_ h
  intro n y hy
  exact Instant.plusDays?_plusDays? (by omega) (by decide) hy

theorem addWeeks_of_advance (h : advance .week (n + 1) start = some x) :
    start.addDays (7 * ((n : Int) + 1)) = .ok (some x) := by
  refine Instant.addDays_of_plusDays? (by omega) ?_
  refine eq_of_advance (f := fun n => start.plusDays? (7 * ((n : Int) + 1))) rfl ?_ h
  intro n y hy
  rw [Nat.cast_succ, Int.mul_add 7 ((n : Int) + 1) 1]
  exact Instant.plusDays?_plusDays? (by omega) (by decide) hy

theorem plusMonths?_of_advance (hday : start.date.day ≤ 28)
    (h : advance .month (n + 1) start = some x) :
    start.plusMonths? ((n : Int) + 1) = some x := by
  refine eq_of_advance (f := fun n => start.plusMonths? ((n : Int) + 1)) rfl ?_ h
  intro n y hy
  exact Instant.plusMonths?_plusMonths? (CivilDate.exists_monthsLater start.exists_date hday _) hy

theorem plusYears?_of_advance (hday : ¬(start.date.month = 2 ∧ start.date.day = 29))
    (h : advance .year (n + 1) start = some x) :
    start.plusYears? ((n : Int) + 1) = some x := by
  refine eq_of_advance (f := fun n => start.plusYears? ((n : Int) + 1)) rfl ?_ h
  intro n y hy
  have hexists := CivilDate.exists_yearsLater start.exists_date hday ((n : Int) + 1)
  rw [Instant.plusYears?_eq_plusMonths?] at hy
  rw [Nat.cast_succ, periodEnd?, Instant.plusYears?_eq_plusMonths?,
    Instant.plusYears?_eq_plusMonths?, Int.add_mul ((n : Int) + 1) 1 12]
  exact Instant.plusMonths?_plusMonths? hexists hy

end Periods

end RecurringBilling
