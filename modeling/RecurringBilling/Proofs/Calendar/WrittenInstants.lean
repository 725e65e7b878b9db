import RecurringBilling.Calendar.Rfc3339
import RecurringBilling.Proofs.Calendar.Bounds
import RecurringBilling.Proofs.Text.Decimal

/-!
# Written instants are read back

The numbers of a written instant are numerals of a fixed width, apart from a signed year, and
the reader takes each number up to its width or to the first character that is no digit.  So
the reader of each part gives back what the writer of the part was given, whatever stands
behind it, and the fields make up the instant again: its date exists, the calendar has its
year, and second 60 is that of a leap second.
-/

namespace RecurringBilling.Calendar

open RecurringBilling.Text

namespace Rfc3339

/-! ## Numbers -/

/-- The text is empty or starts with a character that is no digit. -/
def NoDigitAhead (s : List Char) : Prop := ∀ c ∈ s.head?, c.isDigit = false

theorem noDigitAhead_cons {c : Char} (hc : c.isDigit = false) (s : List Char) :
    NoDigitAhead (c :: s) := by
  simpa [NoDigitAhead] using hc

theorem NoDigitAhead.take {s : List Char} (h : NoDigitAhead s) (n : Nat) :
    NoDigitAhead (s.take n) := by
  intro c hc
  cases n with
  | zero => cases hc
  | succ n =>
    rw [List.head?_take, if_neg (Nat.succ_ne_zero n)] at hc
    exact h c hc

theorem NoDigitAhead.takeWhile {s : List Char} (h : NoDigitAhead s) :
    s.takeWhile Char.isDigit = [] := by
  cases s with
  | nil => rfl
  | cons c s => exact List.takeWhile_cons_of_neg (by simp [h c rfl])

theorem NoDigitAhead.dropWhile {s : List Char} (h : NoDigitAhead s) :
    s.dropWhile Char.isDigit = s := by
  cases s with
  | nil => rfl
  | cons c s => exact List.dropWhile_cons_of_neg (by simp [h c rfl])

/-- Digits are read as a number up to the width or to the first character that is no digit. -/
theorem number?_append {width : Nat} {digits rest : List Char} (hne : digits ≠ [])
    (hdigits : ∀ c ∈ digits, c.isDigit = true) (hwidth : digits.length ≤ width)
    (hrest : NoDigitAhead rest) :
    number? width (digits ++ rest) = some (Nat.ofDigitChars 10 digits 0, rest) := by
  have htrim : trimStart (digits ++ rest) = digits ++ rest := by
    obtain ⟨c, tail, rfl⟩ := List.exists_cons_of_ne_nil hne
    exact trimStart_cons_of_not_blank (not_blank_of_isDigit (hdigits c List.mem_cons_self)) _
  have htaken : ((digits ++ rest).take width).takeWhile Char.isDigit = digits := by
    rw [List.take_append, List.take_of_length_le hwidth, List.takeWhile_append_of_pos hdigits,
      (hrest.take _).takeWhile, List.append_nil]
  have hfull : digits.isEmpty = false := List.isEmpty_eq_false_iff.mpr hne
  simp only [number?, htrim, htaken, hfull, Decimal.foldl_digits, List.drop_left,
    Bool.false_eq_true, if_false]

/-- A numeral of a fixed width is read as its number. -/
theorem number?_writePadded {width n : Nat} (hwidth : 0 < width) (hn : n < 10 ^ width)
    {rest : List Char} (hrest : NoDigitAhead rest) :
    number? width (Decimal.writePadded width n ++ rest) = some (n, rest) := by
  have hlength := Decimal.length_writePadded_of_lt hwidth hn
  rw [number?_append (Decimal.writePadded_ne_nil width n)
    (fun _ => Decimal.isDigit_of_mem_writePadded) (Nat.le_of_eq hlength) hrest,
    Decimal.ofDigitChars_writePadded]

/-! ## Years -/

/-- The sign in front of a year, which the years 0 to 9999 do not have. -/
def yearSign (year : Int) : List Char :=
  if 0 ≤ year ∧ year ≤ 9999 then [] else if year < 0 then ['-'] else ['+']

theorem writeYear_eq (year : Int) :
    writeYear year = yearSign year ++ Decimal.writePadded 4 year.natAbs := by
  unfold writeYear yearSign
  by_cases hfour : 0 ≤ year ∧ year ≤ 9999
  · have habs : year.toNat = year.natAbs := by omega
    rw [if_pos hfour, if_pos hfour, habs, List.nil_append]
  · rw [if_neg hfour, if_neg hfour]
    split <;> rfl

section Years

variable (n : Nat) (rest : List Char)

/-- Behind a sign the reader takes all digits. -/
theorem number?_behind_sign {c : Char} {s : List Char}
    (hs : Decimal.writePadded 4 n ++ '-' :: rest = c :: s) :
    number? (s.length + 1) (c :: s) = some (n, '-' :: rest) := by
  have hlength := congrArg List.length hs
  simp only [List.length_append, List.length_cons] at hlength
  rw [← hs, number?_append (Decimal.writePadded_ne_nil 4 n)
    (fun _ => Decimal.isDigit_of_mem_writePadded) (by omega) (noDigitAhead_cons (by decide) rest),
    Decimal.ofDigitChars_writePadded]

theorem year?_minus :
    year? ('-' :: (Decimal.writePadded 4 n ++ '-' :: rest)) = some (-(n : Int), '-' :: rest) := by
  obtain ⟨c, digits, hcons, hc⟩ := Decimal.exists_writePadded_eq_cons 4 n
  have hread := number?_behind_sign n rest (by rw [hcons, List.cons_append])
  rw [hcons, List.cons_append, year?, trimStart_cons_of_not_blank (by decide)]
  simp only [hc, if_true, hread, Option.map_some]

theorem year?_plus :
    year? ('+' :: (Decimal.writePadded 4 n ++ '-' :: rest)) = some ((n : Int), '-' :: rest) := by
  obtain ⟨c, digits, hcons, hc⟩ := Decimal.exists_writePadded_eq_cons 4 n
  have hread := number?_behind_sign n rest (by rw [hcons, List.cons_append])
  rw [hcons, List.cons_append, year?, trimStart_cons_of_not_blank (by decide)]
  simp only [hc, if_true, hread, Option.map_some]

theorem year?_unsigned {n : Nat} (hn : n < 10000) :
    year? (Decimal.writePadded 4 n ++ '-' :: rest) = some ((n : Int), '-' :: rest) := by
  have hfour : n < 10 ^ 4 := hn
  have hread := number?_writePadded (by decide) hfour
    (noDigitAhead_cons (c := '-') (by decide) rest)
  obtain ⟨c, digits, hcons, hc⟩ := Decimal.exists_writePadded_eq_cons 4 n
  rw [hcons, List.cons_append] at hread ⊢
  rw [year?, trimStart_cons_of_not_blank (not_blank_of_isDigit hc)]
  -- a digit is no sign
  split
  · next h => exact absurd ((List.cons.inj h).1 ▸ hc) (by decide)
  · next h => exact absurd ((List.cons.inj h).1 ▸ hc) (by decide)
  · rw [hread, Option.map_some]

end Years

theorem year?_writeYear (year : Int) (rest : List Char) :
    year? (writeYear year ++ '-' :: rest) = some (year, '-' :: rest) := by
  unfold writeYear
  by_cases hfour : 0 ≤ year ∧ year ≤ 9999
  · rw [if_pos hfour, year?_unsigned rest (by omega), Int.toNat_of_nonneg hfour.1]
  · rw [if_neg hfour]
    by_cases hneg : year < 0
    · rw [if_pos hneg, List.cons_append, year?_minus]
      simp only [Option.some.injEq, Prod.mk.injEq, and_true]
      omega
    · rw [if_neg hneg, List.cons_append, year?_plus]
      simp only [Option.some.injEq, Prod.mk.injEq, and_true]
      omega

/-! ## Fractions -/

/-- Digits behind a point are a fraction of a second. -/
theorem fraction?_writePadded {width n : Nat} (hwidth : 0 < width) (hnine : width ≤ 9)
    (hn : n < 10 ^ width) {rest : List Char} (hrest : NoDigitAhead rest) :
    fraction? ('.' :: (Decimal.writePadded width n ++ rest))
      = some (n * 10 ^ (9 - width), rest) := by
  have hlength := Decimal.length_writePadded_of_lt hwidth hn
  have hdigits : ∀ c ∈ Decimal.writePadded width n, c.isDigit = true :=
    fun _ => Decimal.isDigit_of_mem_writePadded
  have hfull : (Decimal.writePadded width n).isEmpty = false :=
    List.isEmpty_eq_false_iff.mpr (Decimal.writePadded_ne_nil width n)
  have htaken : (Decimal.writePadded width n ++ rest).takeWhile Char.isDigit
      = Decimal.writePadded width n := by
    rw [List.takeWhile_append_of_pos hdigits, hrest.takeWhile, List.append_nil]
  have hleft : (Decimal.writePadded width n ++ rest).dropWhile Char.isDigit = rest := by
    rw [List.dropWhile_append_of_pos hdigits, hrest.dropWhile]
  have hkept : (Decimal.writePadded width n).take 9 = Decimal.writePadded width n :=
    List.take_of_length_le (by omega)
  simp only [fraction?, htaken, hleft, hkept, hfull, hlength, Decimal.foldl_digits,
    Decimal.ofDigitChars_writePadded, Bool.false_eq_true, if_false]
  rfl

/-- A fraction is left out, or written with as many digits as it is counted in. -/
theorem writeFraction_cases {nanos : Nat} (hnanos : nanos < 1000000000) :
    nanos = 0 ∧ writeFraction nanos = [] ∨
      ∃ width n, (width = 3 ∨ width = 6 ∨ width = 9) ∧ n < 10 ^ width ∧
        n * 10 ^ (9 - width) = nanos ∧
        writeFraction nanos = '.' :: Decimal.writePadded width n := by
  unfold writeFraction
  by_cases hzero : nanos = 0
  · exact .inl ⟨hzero, if_pos hzero⟩
  · rw [if_neg hzero]
    by_cases hmilli : nanos % 1000000 = 0
    · exact .inr ⟨3, nanos / 1000000, by decide, by omega, by omega, if_pos hmilli⟩
    · rw [if_neg hmilli]
      by_cases hmicro : nanos % 1000 = 0
      · exact .inr ⟨6, nanos / 1000, by decide, by omega, by omega, if_pos hmicro⟩
      · exact .inr ⟨9, nanos, by decide, hnanos, by omega, if_neg hmicro⟩

theorem fraction?_writeFraction {nanos : Nat} (hnanos : nanos < 1000000000) {c : Char}
    (hpoint : c ≠ '.') (hc : c.isDigit = false) (rest : List Char) :
    fraction? (writeFraction nanos ++ c :: rest) = some (nanos, c :: rest) := by
  rcases writeFraction_cases hnanos with ⟨rfl, hnone⟩ | ⟨width, n, hwidth, hn, hvalue, hsome⟩
  · rw [hnone, List.nil_append, fraction?]
    intro tail h
    exact hpoint (List.cons.inj h).1
  · rw [hsome, List.cons_append, fraction?_writePadded (by omega) (by omega) hn
      (noDigitAhead_cons hc rest), hvalue]

/-- Behind the second a point follows, or what follows the fraction. -/
theorem noDigitAhead_writeFraction {nanos : Nat} (hnanos : nanos < 1000000000) {c : Char}
    (hc : c.isDigit = false) (rest : List Char) :
    NoDigitAhead (writeFraction nanos ++ c :: rest) := by
  rcases writeFraction_cases hnanos with ⟨-, hnone⟩ | ⟨width, n, -, -, -, hsome⟩
  · rw [hnone]
    exact noDigitAhead_cons hc rest
  · rw [hsome]
    exact noDigitAhead_cons (by decide) _

/-- The text is a fraction of no, three, six or nine digits, with a point in front of them. -/
def IsFraction (s : List Char) : Prop :=
  s = [] ∨ ∃ digits, s = '.' :: digits ∧ (∀ c ∈ digits, c.isDigit = true) ∧
    (digits.length = 3 ∨ digits.length = 6 ∨ digits.length = 9)

theorem isFraction_writeFraction {nanos : Nat} (hnanos : nanos < 1000000000) :
    IsFraction (writeFraction nanos) := by
  rcases writeFraction_cases hnanos with ⟨-, hnone⟩ | ⟨width, n, hwidth, hn, -, hsome⟩
  · exact .inl hnone
  · refine .inr ⟨_, hsome, fun _ => Decimal.isDigit_of_mem_writePadded, ?_⟩
    rwa [Decimal.length_writePadded_of_lt (by omega) hn]

end Rfc3339

/-! ## The fields of an instant -/

namespace Instant

variable (t : Instant)

/-- The second of the minute as it is written, which is 60 during a leap second. -/
def writtenSecond : Nat :=
  if 1000000000 ≤ t.nanos then t.secondOfDay.toNat % 60 + 1 else t.secondOfDay.toNat % 60

/-- The nanoseconds as they are written, which start anew with a leap second. -/
def writtenNanos : Nat := if 1000000000 ≤ t.nanos then t.nanos - 1000000000 else t.nanos

/-- The year of an instant is one of the calendar. -/
theorem year_bounds : minYear ≤ t.date.year ∧ t.date.year ≤ maxYear := by
  obtain ⟨hmonth0, hmonth1, -, -⟩ := t.exists_date
  -- the month after the last one starts when the last second is over
  have hend : CivilDate.monthStart (CivilDate.lastMonth + 1) * 86400 = maxSecond + 1 := by decide
  have hlast := Instant.le_monthIndex_iff (t := t) (i := CivilDate.lastMonth + 1)
  have hfirst := t.firstMonth_le
  have hseconds := t.representable.2
  rw [CivilDate.monthIndex, CivilDate.lastMonth] at hlast
  rw [CivilDate.monthIndex, CivilDate.firstMonth] at hfirst
  rw [CivilDate.lastMonth] at hend
  omega

theorem secondOfDay_bounds : 0 ≤ t.secondOfDay ∧ t.secondOfDay < 86400 :=
  ⟨Int.emod_nonneg _ (by decide), Int.emod_lt_of_pos _ (by decide)⟩

theorem dayNumber_mul_add_secondOfDay : t.date.dayNumber * 86400 + t.secondOfDay = t.seconds := by
  rw [t.dayNumber_date, dayNumber, secondOfDay]
  omega

/-- A leap second follows the last second of a minute. -/
theorem writtenSecond_eq_sixty_iff : t.writtenSecond = 60 ↔ 1000000000 ≤ t.nanos := by
  obtain ⟨hlow, hhigh⟩ := t.secondOfDay_bounds
  have hsum := t.dayNumber_mul_add_secondOfDay
  rcases t.validNanos with hplain | ⟨hminute, -⟩
  · rw [writtenSecond, if_neg (by omega)]
    omega
  · unfold writtenSecond
    split <;> omega

/-- Every field has a numeral of its width. -/
theorem fields_lt : t.date.month < 100 ∧ t.date.day < 100 ∧ t.secondOfDay.toNat / 3600 < 100 ∧
    t.secondOfDay.toNat / 60 % 60 < 100 ∧ t.writtenSecond < 100 ∧
    t.writtenNanos < 1000000000 := by
  obtain ⟨-, hmonth, -, hday⟩ := t.exists_date
  have hlength := CivilDate.monthLength_le t.date.year t.date.month
  obtain ⟨-, hsecond⟩ := t.secondOfDay_bounds
  have hnanos := t.nanos_lt
  unfold writtenSecond writtenNanos
  refine ⟨by omega, by omega, by omega, by omega, ?_, ?_⟩
  · split <;> omega
  · split <;> omega

theorem writeLocal_eq : Rfc3339.writeLocal t
    = Rfc3339.writeYear t.date.year ++ '-' :: Decimal.writePadded 2 t.date.month
      ++ '-' :: Decimal.writePadded 2 t.date.day
      ++ 'T' :: Decimal.writePadded 2 (t.secondOfDay.toNat / 3600)
      ++ ':' :: Decimal.writePadded 2 (t.secondOfDay.toNat / 60 % 60)
      ++ ':' :: Decimal.writePadded 2 t.writtenSecond ++ Rfc3339.writeFraction t.writtenNanos := by
  simp only [Rfc3339.writeLocal, writtenSecond, writtenNanos, decide_eq_true_eq]

/-- The fields that are written make up the instant. -/
theorem assemble?_fields : Rfc3339.assemble? t.date (t.secondOfDay.toNat / 3600)
    (t.secondOfDay.toNat / 60 % 60) t.writtenSecond t.writtenNanos 0 = some t := by
  obtain ⟨hlow, hhigh⟩ := t.secondOfDay_bounds
  have hsum := t.dayNumber_mul_add_secondOfDay
  have hsixty := t.writtenSecond_eq_sixty_iff
  unfold Rfc3339.assemble?
  by_cases hleap : 1000000000 ≤ t.nanos
  · have hnanos : t.writtenNanos = t.nanos - 1000000000 := if_pos hleap
    have hminute : t.writtenSecond = t.secondOfDay.toNat % 60 + 1 := if_pos hleap
    have hsecond := hsixty.mpr hleap
    rw [if_pos ⟨t.exists_date, by omega, by omega, by omega, by decide⟩, hsecond, hnanos]
    refine ofParts?_eq_some_iff.mpr ⟨?_, ?_⟩
    · rw [decide_eq_true rfl, if_pos rfl]
      omega
    · rw [decide_eq_true rfl, if_pos rfl]
      omega
  · have hnanos : t.writtenNanos = t.nanos := if_neg hleap
    have hminute : t.writtenSecond = t.secondOfDay.toNat % 60 := if_neg hleap
    have hsecond : ¬t.writtenSecond = 60 := fun h => hleap (hsixty.mp h)
    rw [if_pos ⟨t.exists_date, by omega, by omega, by omega, by decide⟩, hnanos]
    refine ofParts?_eq_some_iff.mpr ⟨?_, ?_⟩
    · rw [decide_eq_false hsecond, if_neg Bool.false_ne_true]
      omega
    · rw [decide_eq_false hsecond, if_neg Bool.false_ne_true]

end Instant

namespace Rfc3339

/-! ## Reading back -/

theorem mark?_cons {mark : Char} (hmark : isBlank mark = false) (rest : List Char) :
    mark? mark (mark :: rest) = some rest := by
  rw [mark?, trimStart_cons_of_not_blank hmark]
  exact if_pos rfl

/-- Two digits are read as their number. -/
theorem number?_two {n : Nat} (hn : n < 100) {rest : List Char} (hrest : NoDigitAhead rest) :
    number? 2 (Decimal.writePadded 2 n ++ rest) = some (n, rest) :=
  number?_writePadded (by decide) hn hrest

theorem bind_of_eq_some {α β : Type} {x : Option α} {a : α} (h : x = some a) (f : α → Option β) :
    x >>= f = f a := by
  rw [h]
  rfl

/-- Numbers of two digits are read one after the other, up to the marks between them. -/
theorem read?_fields {year : Int} {month day hour minute second nanos : Nat} (hmonth : month < 100)
    (hday : day < 100) (hhour : hour < 100) (hminute : minute < 100) (hsecond : second < 100)
    (hnanos : nanos < 1000000000) {c : Char} {zone : List Char} (hpoint : c ≠ '.')
    (hc : c.isDigit = false) (hzone : offset? (c :: zone) = some (0, [])) :
    read? (writeYear year ++ '-' :: Decimal.writePadded 2 month ++ '-' :: Decimal.writePadded 2 day
      ++ 'T' :: Decimal.writePadded 2 hour ++ ':' :: Decimal.writePadded 2 minute
      ++ ':' :: Decimal.writePadded 2 second ++ writeFraction nanos ++ c :: zone)
      = if minYear ≤ year ∧ year ≤ maxYear then
          assemble? ⟨year, month, day⟩ hour minute second nanos 0
        else none := by
  have hdash : ∀ s, NoDigitAhead ('-' :: s) := noDigitAhead_cons (by decide)
  have hcolon : ∀ s, NoDigitAhead (':' :: s) := noDigitAhead_cons (by decide)
  have hT : ∀ s, NoDigitAhead ('T' :: s) := noDigitAhead_cons (by decide)
  have hend := noDigitAhead_writeFraction hnanos hc zone
  have hskipDash : ∀ s, mark? '-' ('-' :: s) = some s := mark?_cons (by decide)
  have hskipColon : ∀ s, mark? ':' (':' :: s) = some s := mark?_cons (by decide)
  have hskipT : ∀ s, separator? ('T' :: s) = some s := fun _ => rfl
  have hnothing : (trimStart []).isEmpty = true := rfl
  simp only [List.append_assoc, List.cons_append]
  unfold read?
  -- one step for each field and each mark, since every reader goes on where the one before ends
  refine (bind_of_eq_some (year?_writeYear year _) _).trans ?_
  refine (bind_of_eq_some (hskipDash _) _).trans ?_
  refine (bind_of_eq_some (number?_two hmonth (hdash _)) _).trans ?_
  refine (bind_of_eq_some (hskipDash _) _).trans ?_
  refine (bind_of_eq_some (number?_two hday (hT _)) _).trans ?_
  refine (bind_of_eq_some (hskipT _) _).trans ?_
  refine (bind_of_eq_some (number?_two hhour (hcolon _)) _).trans ?_
  refine (bind_of_eq_some (hskipColon _) _).trans ?_
  refine (bind_of_eq_some (number?_two hminute (hcolon _)) _).trans ?_
  refine (bind_of_eq_some (hskipColon _) _).trans ?_
  refine (bind_of_eq_some (number?_two hsecond hend) _).trans ?_
  refine (bind_of_eq_some (fraction?_writeFraction hnanos hpoint hc zone) _).trans ?_
  refine (bind_of_eq_some hzone _).trans ?_
  simp [hnothing]

/-- An instant is read back, whatever way the offset zero is written. -/
theorem read?_writeLocal (t : Instant) {c : Char} {zone : List Char} (hpoint : c ≠ '.')
    (hc : c.isDigit = false) (hzone : offset? (c :: zone) = some (0, [])) :
    read? (writeLocal t ++ c :: zone) = some t := by
  obtain ⟨hmonth, hday, hhour, hminute, hsecond, hnanos⟩ := t.fields_lt
  rw [t.writeLocal_eq, read?_fields hmonth hday hhour hminute hsecond hnanos hpoint hc hzone,
    if_pos t.year_bounds]
  exact t.assemble?_fields

end Rfc3339

namespace Instant

/-- An instant is read back from the form that is stored and exchanged. -/
theorem read?_rfc3339 (t : Instant) : Rfc3339.read? t.rfc3339.toList = some t := by
  rw [rfc3339, String.toList_ofList]
  exact Rfc3339.read?_writeLocal t (by decide) (by decide) (by decide)

/-! ## The written form -/

/-- The text is the year with its sign, in four digits or, where it has a sign, in at least four,
fourteen characters of month, day and time of day, a fraction and the offset `Z`. -/
def HasForm (t : Instant) (s : List Char) : Prop :=
  ∃ digits clock fraction,
    s = Rfc3339.yearSign t.date.year ++ digits ++ '-' :: clock ++ fraction ++ ['Z'] ∧
      (∀ c ∈ digits, c.isDigit = true) ∧ 4 ≤ digits.length ∧
      (Rfc3339.yearSign t.date.year = [] → digits.length = 4) ∧ clock.length = 14 ∧
      Rfc3339.IsFraction fraction

theorem hasForm_rfc3339 (t : Instant) : t.HasForm t.rfc3339.toList := by
  obtain ⟨hmonth, hday, hhour, hminute, hsecond, hnanos⟩ := t.fields_lt
  have htwo : ∀ {n : Nat}, n < 100 → (Decimal.writePadded 2 n).length = 2 :=
    fun hn => Decimal.length_writePadded_of_lt (by decide) hn
  refine ⟨Decimal.writePadded 4 t.date.year.natAbs,
    Decimal.writePadded 2 t.date.month ++ '-' :: Decimal.writePadded 2 t.date.day
      ++ 'T' :: Decimal.writePadded 2 (t.secondOfDay.toNat / 3600)
      ++ ':' :: Decimal.writePadded 2 (t.secondOfDay.toNat / 60 % 60)
      ++ ':' :: Decimal.writePadded 2 t.writtenSecond,
    Rfc3339.writeFraction t.writtenNanos, ?_, fun _ => Decimal.isDigit_of_mem_writePadded, ?_, ?_,
    ?_, Rfc3339.isFraction_writeFraction hnanos⟩
  · simp only [rfc3339, String.toList_ofList, writeLocal_eq, Rfc3339.writeYear_eq,
      List.append_assoc, List.cons_append]
  · rw [Decimal.length_writePadded]
    exact Nat.le_max_left _ _
  · intro hsign
    have hyear : 0 ≤ t.date.year ∧ t.date.year ≤ 9999 := by
      unfold Rfc3339.yearSign at hsign
      split at hsign
      · assumption
      · split at hsign <;> cases hsign
    exact Decimal.length_writePadded_of_lt (by decide) (by omega)
  · simp only [List.length_append, List.length_cons, htwo hmonth, htwo hday, htwo hhour,
      htwo hminute, htwo hsecond]

example : last.rfc3339 = "+262142-12-31T23:59:59Z" := by decide +kernel

end Instant

end RecurringBilling.Calendar
