import RecurringBilling.Proofs.Calendar.Composition

/-!
# Steps by days

A step by days leads to the instant that many times 86400 seconds later, wherever the calendar
has it, and nowhere else.  An instant in a leap second is the only one for which that second
exists: it comes after the second that it is named for and before all later ones.  A step is
answered exactly if the days are a span of time, which is far more than the calendar holds and
far less than the counts of days that can be asked for; the others overflow.
-/

namespace RecurringBilling

namespace Calendar

namespace Instant

/-! ## Distances -/

/-- The instant lies in a leap second. -/
def IsLeap (t : Instant) : Prop := 1000000000 ≤ t.nanos

/-- Nanoseconds from an instant to another one, where the leap second that the first one may lie in
is the only one that ever was. -/
def nanosUntil (t u : Instant) : Int :=
  (u.seconds - t.seconds) * 1000000000 + ((u.nanos : Int) - t.nanos) +
    if 1000000000 ≤ t.nanos ∧ t.seconds < u.seconds then 1000000000 else 0

/-- The second instant is a number of seconds after the first one.  It lies in no leap second but
that of the first one. -/
structure SecondsLater (t : Instant) (n : Int) (u : Instant) : Prop where
  nanos : t.nanosUntil u = n * 1000000000
  leap : u.IsLeap → u = t

/-- The second instant is a number of days of 86400 seconds after the first one. -/
def DaysLater (t : Instant) (n : Int) (u : Instant) : Prop := t.SecondsLater (n * 86400) u

theorem eq_iff {t u : Instant} : u = t ↔ u.seconds = t.seconds ∧ u.nanos = t.nanos := by
  constructor
  · rintro rfl
    exact ⟨rfl, rfl⟩
  · obtain ⟨seconds, nanos, _, _⟩ := t
    obtain ⟨seconds', nanos', _, _⟩ := u
    rintro ⟨rfl, rfl⟩
    rfl

theorem nanosUntil_self (t : Instant) : t.nanosUntil t = 0 := by
  rw [nanosUntil, if_neg (by omega)]
  omega

section Steps

variable {t u : Instant} {n : Int}

/-- A step leads into a leap second only if it stays there. -/
theorem SecondsLater.not_isLeap (h : t.SecondsLater n u) (hmoved : n ≠ 0 ∨ ¬t.IsLeap) :
    ¬u.IsLeap := by
  intro hu
  obtain rfl := h.leap hu
  have hstays := h.nanos
  rw [nanosUntil_self] at hstays
  rcases hmoved with hn | hplain
  · omega
  · exact hplain hu

/-- Outside leap seconds the seconds are counted and the rest stays. -/
theorem secondsLater_iff_of_not_isLeap (ht : ¬t.IsLeap) :
    t.SecondsLater n u ↔ u.seconds = t.seconds + n ∧ u.nanos = t.nanos := by
  have hplain : ¬(1000000000 ≤ t.nanos ∧ t.seconds < u.seconds) := fun h => ht h.1
  unfold IsLeap at ht
  constructor
  · intro h
    have hu := h.not_isLeap (.inr ht)
    have hdistance := h.nanos
    rw [nanosUntil, if_neg hplain] at hdistance
    unfold IsLeap at hu
    omega
  · rintro ⟨hseconds, hnanos⟩
    refine ⟨?_, fun hu => ?_⟩
    · rw [nanosUntil, if_neg hplain]
      omega
    · unfold IsLeap at hu
      omega

/-- Out of a leap second a step counts that second if it goes forward, and it counts from the second
after it if it goes back. -/
theorem secondsLater_iff_of_isLeap (ht : t.IsLeap) (hn : n ≠ 0) :
    t.SecondsLater n u ↔
      u.seconds = t.seconds + (if 0 < n then n else 1 + n) ∧ u.nanos = t.nanos - 1000000000 := by
  have hnanos := t.nanos_lt
  constructor
  · intro h
    have hu := h.not_isLeap (.inl hn)
    have hdistance := h.nanos
    rw [nanosUntil] at hdistance
    unfold IsLeap at ht hu
    split at hdistance <;> split <;> omega
  · rintro ⟨hseconds, hrest⟩
    unfold IsLeap at ht
    refine ⟨?_, fun hu => ?_⟩
    · rw [nanosUntil]
      split at hseconds <;> split <;> omega
    · unfold IsLeap at hu
      omega

/-- No step leads nowhere else. -/
theorem secondsLater_zero_iff : t.SecondsLater 0 u ↔ u = t := by
  constructor
  · intro h
    by_cases ht : t.IsLeap
    · -- an instant outside leap seconds is before or after this one
      apply h.leap
      have hnanos := t.nanos_lt
      have hdistance := h.nanos
      rw [nanosUntil] at hdistance
      unfold IsLeap at ht ⊢
      split at hdistance <;> omega
    · rw [secondsLater_iff_of_not_isLeap ht, Int.add_zero] at h
      exact eq_iff.mpr h
  · rintro rfl
    exact ⟨by rw [nanosUntil_self, Int.zero_mul], fun _ => rfl⟩

/-- A step by seconds leads exactly to what is that much later. -/
theorem plusSeconds?_eq_some_iff : t.plusSeconds? n = some u ↔ t.SecondsLater n u := by
  unfold plusSeconds?
  by_cases ht : t.IsLeap
  · have hleap : ¬t.nanos < 1000000000 := Nat.not_lt.mpr ht
    by_cases hn : n = 0
    · rw [if_pos (.inr hn), hn, ofParts?_eq_some_iff, Int.add_zero, secondsLater_zero_iff, eq_iff]
    · rw [if_neg (by omega), secondsLater_iff_of_isLeap ht hn]
      split
      · rw [ofParts?_eq_some_iff]
      · rw [ofParts?_eq_some_iff, Int.add_assoc]
  · rw [if_pos (.inl (Nat.not_le.mp ht)), ofParts?_eq_some_iff, secondsLater_iff_of_not_isLeap ht]

theorem plusDays?_eq_some_iff : t.plusDays? n = some u ↔ t.DaysLater n u :=
  plusSeconds?_eq_some_iff

end Steps

/-! ## Spans of days -/

/-- The days are a span of time: their milliseconds fit into 63 bits and a sign. -/
def IsSpan (n : Int) : Prop := -(2 ^ 63 - 1) ≤ n * 86400000 ∧ n * 86400000 ≤ 2 ^ 63 - 1

instance (n : Int) : Decidable (IsSpan n) := inferInstanceAs (Decidable (_ ∧ _))

theorem isSpan_iff {n : Int} : IsSpan n ↔ n.natAbs ≤ maxSpanDays.natAbs := by
  unfold IsSpan maxSpanDays
  omega

theorem addDays_eq (t : Instant) (n : Int) :
    t.addDays n = if IsSpan n then .ok (t.plusDays? n) else .error ⟨n⟩ := by
  simp only [addDays, isSpan_iff]

/-- A step by days is answered, and rightly, exactly if the days are a span: with the instant so
many days later if the calendar has it and with nothing otherwise.  Other counts of days overflow,
also where the calendar could not hold the result anyway. -/
theorem addDays_answers_iff (t : Instant) (n : Int) :
    ((∃ answer, t.addDays n = .ok answer ∧ ∀ u, answer = some u ↔ t.DaysLater n u) ↔ IsSpan n) ∧
      (t.addDays n = .error ⟨n⟩ ↔ ¬IsSpan n) := by
  rw [addDays_eq]
  by_cases hspan : IsSpan n
  · rw [if_pos hspan]
    exact ⟨iff_of_true ⟨_, rfl, fun _ => plusDays?_eq_some_iff⟩ hspan, by simp [hspan]⟩
  · rw [if_neg hspan]
    exact ⟨iff_of_false (fun ⟨_, hanswer, _⟩ => by cases hanswer) hspan, by simp [hspan]⟩

/-- So many days after the start of 1970 the calendar has no instant, and 64 bits hold the count of
days; but it is one more than a span of days can have, and it overflows. -/
theorem day_count_overflows :
    (-(2 ^ 63) ≤ (106751991168 : Int) ∧ (106751991168 : Int) < 2 ^ 63) ∧
      (∀ u, ¬epoch.DaysLater 106751991168 u) ∧
      epoch.addDays 106751991168 = .error ⟨106751991168⟩ ∧
      ¬∃ answer, epoch.addDays 106751991168 = .ok answer ∧
        ∀ u, answer = some u ↔ epoch.DaysLater 106751991168 u := by
  have hoverflow : epoch.addDays 106751991168 = .error ⟨106751991168⟩ := by decide
  have hnowhere : epoch.plusDays? 106751991168 = none := by decide
  refine ⟨by decide, fun u hu => ?_, hoverflow, ?_⟩
  · rw [← plusDays?_eq_some_iff, hnowhere] at hu
    cases hu
  · rintro ⟨answer, hanswer, -⟩
    rw [hoverflow] at hanswer
    cases hanswer

end Instant

end Calendar

end RecurringBilling
