/-!
# Civil dates

The proleptic Gregorian calendar over all integers as years, year 0 included.
`dayNumber` counts days from 1970-01-01; `ofDayNumber` is its inverse on dates
that exist.  Both count years from March, so that the leap day comes last.
Moving by years and months counts months, in numbers of 32 bits.
-/

namespace RecurringBilling.Calendar

/-- A date.  Nothing is assumed of month and day; `Exists` says when the calendar
has the date. -/
structure CivilDate where
  year : Int
  month : Nat
  day : Nat
  deriving DecidableEq, Repr

/-- The year has 366 days. -/
def isLeapYear (year : Int) : Bool :=
  year % 4 == 0 && (year % 100 != 0 || year % 400 == 0)

/-- The number of days of a month. -/
def monthLength (year : Int) (month : Nat) : Nat :=
  if month = 2 then if isLeapYear year then 29 else 28
  else if month = 4 ∨ month = 6 ∨ month = 9 ∨ month = 11 then 30
  else 31

namespace CivilDate

/-- The calendar has the date. -/
def Exists (d : CivilDate) : Prop :=
  1 ≤ d.month ∧ d.month ≤ 12 ∧ 1 ≤ d.day ∧ d.day ≤ monthLength d.year d.month

instance (d : CivilDate) : Decidable d.Exists :=
  inferInstanceAs (Decidable (1 ≤ d.month ∧ d.month ≤ 12 ∧ 1 ≤ d.day ∧ d.day ≤ _))

/-- Days from 1970-01-01 to the date. -/
def dayNumber (d : CivilDate) : Int :=
  -- January and February end the year that started in March
  let year : Int := if d.month ≤ 2 then d.year - 1 else d.year
  let month : Int := ((d.month : Int) + 9) % 12
  365 * year + year / 4 - year / 100 + year / 400 + (153 * month + 2) / 5 + (d.day - 1) - 719468

/-- The date that many days after 1970-01-01. -/
def ofDayNumber (n : Int) : CivilDate :=
  -- an era is 400 years; the first one starts on 0000-03-01
  let era := (n + 719468) / 146097
  let dayOfEra := (n + 719468) % 146097
  let yearOfEra := (dayOfEra - dayOfEra / 1460 + dayOfEra / 36524 - dayOfEra / 146096) / 365
  let dayOfYear := dayOfEra - (365 * yearOfEra + yearOfEra / 4 - yearOfEra / 100)
  -- from March on, five months have 153 days
  let month := (5 * dayOfYear + 2) / 153
  let day := dayOfYear - (153 * month + 2) / 5 + 1
  let year := era * 400 + yearOfEra
  { year := if month < 10 then year else year + 1
    month := (if month < 10 then month + 3 else month - 9).toNat
    day := day.toNat }

/-- The number, if 32 bits hold it with its sign. -/
def narrow? (n : Int) : Option Int :=
  if -2147483648 ≤ n ∧ n ≤ 2147483647 then some n else none

/-- The month some years and months after that of the date, as a number of months
since the start of year 0.  There is none if a number on the way does not fit in
32 bits. -/
def monthReached? (d : CivilDate) (years months : Int) : Option Int := do
  let january ← narrow? (d.year * 12)
  let own ← narrow? (january + ((d.month : Int) - 1))
  let span ← narrow? (years * 12)
  let inYear ← narrow? (own + span)
  narrow? (inYear + months)

end CivilDate

example : (CivilDate.mk 1970 1 1).dayNumber = 0 := by decide
example : CivilDate.ofDayNumber (-719162) = ⟨1, 1, 1⟩ := by decide
example : CivilDate.ofDayNumber 19782 = ⟨2024, 2, 29⟩ := by decide

end RecurringBilling.Calendar
