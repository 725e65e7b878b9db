import RecurringBilling.Calendar.CivilDate

/-!
# Instants

An instant is a number of seconds since 1970-01-01T00:00:00Z and a number of
nanoseconds.  The calendar reaches from the start of the year -262143 to the end
of the year 262142.  During a leap second, which only the last second of a
minute can be followed by, the nanoseconds run on from one to two billion.
-/

namespace RecurringBilling.Calendar

/-- The first year of the calendar. -/
def minYear : Int := -262143

/-- The last year of the calendar. -/
def maxYear : Int := 262142

/-- The first second of the calendar. -/
def minSecond : Int := -8334601228800

/-- The last second of the calendar. -/
def maxSecond : Int := 8210266876799

/-- A count of seconds that the calendar can hold. -/
def Representable (seconds : Int) : Prop := minSecond ≤ seconds ∧ seconds ≤ maxSecond

instance (seconds : Int) : Decidable (Representable seconds) :=
  inferInstanceAs (Decidable (minSecond ≤ seconds ∧ seconds ≤ maxSecond))

/-- Nanoseconds that may stand beside a count of seconds. -/
def ValidNanos (seconds : Int) (nanos : Nat) : Prop :=
  nanos < 1000000000 ∨ (seconds % 60 = 59 ∧ nanos < 2000000000)

instance (seconds : Int) (nanos : Nat) : Decidable (ValidNanos seconds nanos) :=
  inferInstanceAs (Decidable (_ ∨ (_ ∧ _)))

/-- A point in time, always in UTC. -/
structure Instant where
  seconds : Int
  nanos : Nat
  representable : Representable seconds
  validNanos : ValidNanos seconds nanos
  deriving DecidableEq

namespace Instant

/-- The instant with the given parts, if there is one. -/
def ofParts? (seconds : Int) (nanos : Nat) : Option Instant :=
  if h : Representable seconds ∧ ValidNanos seconds nanos then
    some ⟨seconds, nanos, h.1, h.2⟩
  else none

/-- 1970-01-01T00:00:00Z. -/
def epoch : Instant := ⟨0, 0, by decide, by decide⟩

instance : Inhabited Instant := ⟨epoch⟩

/-- 0001-01-01T00:00:00Z, which stands for an instant that has not been set. -/
def unset : Instant := ⟨-62135596800, 0, by decide, by decide⟩

/-- The instant is the one that stands for "not set". -/
def isUnset (t : Instant) : Bool := t.seconds == -62135596800 && t.nanos == 0

/-! ## Order -/

/-- The instant comes before another one. -/
def isBefore (t u : Instant) : Bool :=
  decide (t.seconds < u.seconds) || (t.seconds == u.seconds && decide (t.nanos < u.nanos))

/-- The instant comes after another one. -/
def isAfter (t u : Instant) : Bool := u.isBefore t

/-- The order of two instants. -/
def compare (t u : Instant) : Ordering :=
  if t.isBefore u then .lt else if t.isAfter u then .gt else .eq

/-! ## Parts -/

/-- The day number of the instant's date. -/
def dayNumber (t : Instant) : Int := t.seconds / 86400

/-- The date of the instant. -/
def date (t : Instant) : CivilDate := CivilDate.ofDayNumber t.dayNumber

/-- Seconds since midnight. -/
def secondOfDay (t : Instant) : Int := t.seconds % 86400

/-- The same time of day on another day, if the calendar holds it. -/
def onDay? (t : Instant) (dayNumber : Int) : Option Instant :=
  ofParts? (dayNumber * 86400 + t.secondOfDay) t.nanos

/-- The instant at the start of its second.  A leap second stays one. -/
def truncateToSecond (t : Instant) : Instant :=
  if h : t.nanos < 1000000000 then
    ⟨t.seconds, 0, t.representable, Or.inl (by decide)⟩
  else
    ⟨t.seconds, 1000000000, t.representable, t.validNanos.elim (fun h' => absurd h' h)
      fun h' => Or.inr ⟨h'.1, by decide⟩⟩

/-! ## Moving in time -/

/-- The instant a whole number of seconds later, if the calendar holds it.  A
step out of a leap second counts from the second before it when it goes forward
and from the second after it when it goes back. -/
def plusSeconds? (t : Instant) (n : Int) : Option Instant :=
  if t.nanos < 1000000000 ∨ n = 0 then ofParts? (t.seconds + n) t.nanos
  else if 0 < n then ofParts? (t.seconds + n) (t.nanos - 1000000000)
  else ofParts? (t.seconds + 1 + n) (t.nanos - 1000000000)

/-- The instant a whole number of days later. -/
def plusDays? (t : Instant) (n : Int) : Option Instant := t.plusSeconds? (n * 86400)

/-- The instant some calendar years and months later, at the same time of day.
A day that the month reached does not have runs over into the month after it:
one month after January 31 is March 2 or 3. -/
def plusCalendar? (t : Instant) (years months : Int) : Option Instant := do
  let index ← t.date.monthReached? years months
  let year := index / 12
  if minYear ≤ year ∧ year ≤ maxYear then
    let first : CivilDate := ⟨year, (index % 12).toNat + 1, 1⟩
    t.onDay? (first.dayNumber + ((t.date.day : Int) - 1))
  else none

/-- The instant a whole number of calendar months later. -/
def plusMonths? (t : Instant) (n : Int) : Option Instant := t.plusCalendar? 0 n

/-- The instant a whole number of calendar years later: one year after February
29 is March 1. -/
def plusYears? (t : Instant) (n : Int) : Option Instant := t.plusCalendar? n 0

end Instant

/-- A number of days too large to be a span of time. -/
structure SpanOverflow where
  days : Int
  deriving DecidableEq, Repr

/-- The greatest number of days in a span of time, `2 ^ 63 - 1` milliseconds. -/
def maxSpanDays : Int := 106751991167

/-- Adds a span of days.  The span itself must exist; the result need not be in
the calendar. -/
def Instant.addDays (t : Instant) (n : Int) : Except SpanOverflow (Option Instant) :=
  if n.natAbs ≤ maxSpanDays.natAbs then .ok (t.plusDays? n) else .error ⟨n⟩

example : (CivilDate.mk minYear 1 1).dayNumber * 86400 = minSecond := by decide
example : (CivilDate.mk maxYear 12 31).dayNumber * 86400 + 86399 = maxSecond := by decide

end RecurringBilling.Calendar
