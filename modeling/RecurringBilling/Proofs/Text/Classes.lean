import RecurringBilling.Text.Blank
import RecurringBilling.Text.Digit
import RecurringBilling.Text.LetterCase
import RecurringBilling.Text.Numeric
import RecurringBilling.Proofs.Text.Spans

/-!
# Classes of characters

Letters, numbers and blanks are looked up by halving their tables, digits of ASCII and controls by
comparing bounds.  Either way a class consists of exactly what its table covers.
-/

namespace RecurringBilling.Text

/-- A letter of any script. -/
def IsLetter (c : Char) : Prop := Covers alphabetic.toList c.toNat

/-- A decimal digit of any script in the table. -/
def IsDecimalDigit (c : Char) : Prop := Covers decimalDigits.toList c.toNat

/-- A letter or a decimal digit. -/
def IsLetterOrDigit (c : Char) : Prop := IsLetter c ∨ IsDecimalDigit c

/-- An upper case letter of any script. -/
def IsUpperCase (c : Char) : Prop := Covers uppercase.toList c.toNat

/-- A lower case letter of any script. -/
def IsLowerCase (c : Char) : Prop := Covers lowercase.toList c.toNat

/-- A digit, numeral or fraction of any script. -/
def IsNumeric (c : Char) : Prop := Covers number.toList c.toNat

/-- Control characters. -/
def controls : List Span := [⟨0x0, 0x1F⟩, ⟨0x7F, 0x9F⟩]

theorem isLetter_eq_true_iff (c : Char) : isLetter c = true ↔ IsLetter c :=
  SpanTable.search_eq_true_iff (by decide +kernel)

theorem isUpperCase_eq_true_iff (c : Char) : isUpperCase c = true ↔ IsUpperCase c :=
  SpanTable.search_eq_true_iff (by decide +kernel)

theorem isLowerCase_eq_true_iff (c : Char) : isLowerCase c = true ↔ IsLowerCase c :=
  SpanTable.search_eq_true_iff (by decide +kernel)

theorem increasing_number : SpanTable.Increasing number.toList := by
  decide +kernel

theorem isNumeric_eq_true_iff (c : Char) : isNumeric c = true ↔ IsNumeric c :=
  SpanTable.search_eq_true_iff increasing_number

/-- The runs of digits do not overlap and stand in their order. -/
theorem increasing_decimalDigits : SpanTable.Increasing decimalDigits.toList := by
  decide +kernel

/-- Of the digits only the first run is in ASCII. -/
theorem covers_decimalDigits_ascii :
    ∀ n < 128, Covers decimalDigits.toList n ↔ 48 ≤ n ∧ n ≤ 57 := by
  decide +kernel

/-- What is decided without the table agrees with it. -/
theorem isDigit_eq_true_iff (c : Char) : isDigit c = true ↔ IsDecimalDigit c := by
  unfold isDigit
  split
  · next hascii =>
    rw [Bool.and_eq_true, decide_eq_true_eq, decide_eq_true_eq]
    exact (covers_decimalDigits_ascii c.toNat hascii).symm
  · exact SpanTable.search_eq_true_iff increasing_decimalDigits

/-- A character is a digit if and only if some run of the table holds it, and in this table, as in
every table of increasing ranges, halving answers as looking at every range does. -/
theorem digit_search_agrees_with_table :
    (∀ c : Char, isDigit c = true ↔
      ∃ s ∈ decimalDigits.toList, s.lo ≤ c.toNat ∧ c.toNat ≤ s.hi) ∧
    SpanTable.Increasing decimalDigits.toList ∧
    ∀ table : SpanTable, SpanTable.Increasing table.toList →
      ∀ c : Nat, table.search c = table.scan c := by
  refine ⟨fun c => ?_, increasing_decimalDigits, fun table hincreasing c => ?_⟩
  · exact isDigit_eq_true_iff c
  · exact SpanTable.search_eq_scan hincreasing

/-- A half is found by halving among the numbers, and it is not a digit. -/
theorem half_is_number_and_not_digit :
    SpanTable.Increasing number.toList ∧ number.scan '½'.toNat = true ∧
      isNumeric '½' = true ∧ isDigit '½' = false := by
  obtain ⟨hdigit, -, hagree⟩ := digit_search_agrees_with_table
  have hscan : number.scan '½'.toNat = true := by decide +kernel
  refine ⟨increasing_number, hscan, ?_, ?_⟩
  · exact (hagree number increasing_number '½'.toNat).trans hscan
  · exact Bool.eq_false_iff.mpr fun h => absurd ((hdigit '½').mp h) (by decide +kernel)

theorem isLetterOrDigit_eq_true_iff (c : Char) :
    isLetterOrDigit c = true ↔ IsLetterOrDigit c := by
  rw [isLetterOrDigit, Bool.or_eq_true, isLetter_eq_true_iff, isDigit_eq_true_iff, IsLetterOrDigit]

theorem isBlank_eq_true_iff (c : Char) :
    isBlank c = true ↔ Covers whiteSpace.toList c.toNat :=
  SpanTable.search_eq_true_iff (by decide)

theorem isControl_eq_true_iff (c : Char) : isControl c = true ↔ Covers controls c.toNat := by
  simp only [isControl, Bool.or_eq_true, Bool.and_eq_true, decide_eq_true_eq, Covers, controls,
    Span.Contains, List.mem_cons, List.not_mem_nil, or_false, exists_eq_or_imp, exists_eq_left]
  omega

end RecurringBilling.Text
