import Mathlib.Algebra.Group.Nat.Defs
import Mathlib.Data.List.Basic
import RecurringBilling.Identifier

/-!
# What decimal numerals denote

A reader of numerals gives a number exactly if the text is made up of digits whose value is
that number, a plus sign in front of them apart, and the number is below the bound.  The
numeral of a number consists of digits only, has no leading zero and is read as the number
again, also where blanks around it are left out.
-/

namespace RecurringBilling.Text

theorem trim_of_forall_not_blank {s : List Char} (h : ∀ c ∈ s, isBlank c = false) :
    trim s = s := by
  have hstart : ∀ t : List Char, (∀ c ∈ t, isBlank c = false) → trimStart t = t := by
    intro t ht
    cases t with
    | nil => rfl
    | cons c rest => exact trimStart_cons_of_not_blank (ht c List.mem_cons_self) rest
  rw [trim, hstart s h, trimEnd_eq_reverse, hstart s.reverse (by simpa using h),
    List.reverse_reverse]

theorem not_blank_of_isDigit {c : Char} (h : c.isDigit = true) : isBlank c = false := by
  have hall : ∀ d < 10, whiteSpace.search (48 + d) = false := by decide
  obtain ⟨hlow, hhigh⟩ := Char.isDigit_iff_toNat.mp h
  have hlow : 48 ≤ c.toNat := hlow
  have hhigh : c.toNat ≤ 57 := hhigh
  have hc := hall (c.toNat - 48) (by omega)
  rwa [Nat.add_sub_cancel' hlow] at hc

namespace Decimal

/-! ## Reading -/

/-- The text is a numeral of the number: digits with that value, after a plus sign or not. -/
def Denotes (s : List Char) (n : Nat) : Prop :=
  ∃ digits : List Char, digits ≠ [] ∧ (∀ c ∈ digits, c.isDigit = true) ∧
    Nat.ofDigitChars 10 digits 0 = n ∧ (s = digits ∨ s = '+' :: digits)

theorem digitValue?_of_isDigit {c : Char} (h : c.isDigit = true) :
    digitValue? c = some (c.toNat - 48) :=
  if_pos (Char.isDigit_iff_toNat.mp h)

theorem digitValue?_of_not_isDigit {c : Char} (h : ¬c.isDigit = true) : digitValue? c = none :=
  if_neg fun hrange => h (Char.isDigit_iff_toNat.mpr hrange)

/-- Digit by digit from the left, ten times what has been read. -/
theorem foldl_digits (digits : List Char) :
    digits.foldl (fun n c => n * 10 + (c.toNat - 48)) 0 = Nat.ofDigitChars 10 digits 0 := by
  rw [Nat.ofDigitChars_eq_foldl]
  congr 1
  funext n c
  rw [Nat.mul_comm n 10]
  rfl

theorem le_ofDigitChars (s : List Char) (value : Nat) : value ≤ Nat.ofDigitChars 10 s value := by
  induction s generalizing value with
  | nil => exact Nat.le_refl value
  | cons c rest ih =>
    rw [Nat.ofDigitChars_cons]
    have hrest := ih (10 * value + (c.toNat - '0'.toNat))
    omega

/-- A numeral goes on with digits, and stays below the bound up to its end. -/
theorem readDigits_eq_ok_iff {bound value n : Nat} {s : List Char} (hvalue : value < bound) :
    readDigits bound value s = .ok n ↔
      (∀ c ∈ s, c.isDigit = true) ∧ Nat.ofDigitChars 10 s value = n ∧ n < bound := by
  induction s generalizing value with
  | nil =>
    rw [readDigits_nil, Nat.ofDigitChars_nil]
    constructor
    · intro h
      cases h
      exact ⟨by simp, rfl, hvalue⟩
    · rintro ⟨-, rfl, -⟩
      rfl
  | cons c rest ih =>
    by_cases hc : c.isDigit = true
    · rw [readDigits, digitValue?_of_isDigit hc, Nat.ofDigitChars_cons,
        show '0'.toNat = 48 from rfl, Nat.mul_comm 10 value]
      dsimp only
      by_cases hnext : value * 10 + (c.toNat - 48) < bound
      · rw [if_pos hnext, ih hnext]
        simp [hc]
      · -- the value does not get smaller again
        rw [if_neg hnext]
        have hle := le_ofDigitChars rest (value * 10 + (c.toNat - 48))
        constructor
        · intro h
          cases h
        · rintro ⟨-, rfl, hn⟩
          omega
    · rw [readDigits, digitValue?_of_not_isDigit hc]
      constructor
      · intro h
        cases h
      · rintro ⟨hdigits, -⟩
        exact absurd (hdigits c List.mem_cons_self) hc

/-- Exactly the numerals of a number below the bound are read as that number. -/
theorem read_eq_ok_iff {bound n : Nat} {s : List Char} (hbound : 0 < bound) :
    read bound s = .ok n ↔ Denotes s n ∧ n < bound := by
  have hplus : ¬ '+'.isDigit = true := by decide
  unfold read
  split
  · constructor
    · intro h
      cases h
    · rintro ⟨⟨digits, hne, -, -, hs | hs⟩, -⟩
      · exact absurd hs.symm hne
      · cases hs
  · constructor
    · intro h
      cases h
    · rintro ⟨⟨digits, hne, hdigits, -, hs | hs⟩, -⟩
      · exact absurd (hdigits '+' (hs ▸ List.mem_cons_self)) hplus
      · exact absurd (List.cons.inj hs).2.symm hne
  · next rest hrest =>
    rw [readDigits_eq_ok_iff hbound]
    constructor
    · rintro ⟨hdigits, hvalue, hn⟩
      exact ⟨⟨rest, hrest, hdigits, hvalue, .inr rfl⟩, hn⟩
    · rintro ⟨⟨digits, -, hdigits, hvalue, hs | hs⟩, hn⟩
      · exact absurd (hdigits '+' (hs ▸ List.mem_cons_self)) hplus
      · obtain rfl := (List.cons.inj hs).2
        exact ⟨hdigits, hvalue, hn⟩
  · next hnil hsign hrest =>
    rw [readDigits_eq_ok_iff hbound]
    constructor
    · rintro ⟨hdigits, hvalue, hn⟩
      exact ⟨⟨s, hnil, hdigits, hvalue, .inl rfl⟩, hn⟩
    · rintro ⟨⟨digits, -, hdigits, hvalue, hs | hs⟩, hn⟩
      · exact hs ▸ ⟨hdigits, hvalue, hn⟩
      · exact absurd hs (hrest digits)

/-! ## Writing -/

theorem isDigit_of_mem_write {n : Nat} {c : Char} (h : c ∈ write n) : c.isDigit = true :=
  Nat.isDigit_of_mem_toDigits (by decide) (by decide) h

theorem write_ne_nil (n : Nat) : write n ≠ [] := Nat.toDigits_ne_nil

theorem denotes_write (n : Nat) : Denotes (write n) n :=
  ⟨write n, write_ne_nil n, fun _ => isDigit_of_mem_write, Nat.ofDigitChars_ten_toDigits, .inl rfl⟩

/-- A numeral has no leading zero, except where it is nothing but a zero. -/
theorem head?_write_ne_zero {n : Nat} (hn : n ≠ 0) : (write n).head? ≠ some '0' := by
  induction n using Nat.strongRecOn with
  | _ n ih =>
    rw [write, Nat.toDigits_eq_if (by decide)]
    by_cases hsmall : n < 10
    · have hall : ∀ d < 10, d ≠ 0 → Nat.digitChar d ≠ '0' := by decide
      rw [if_pos hsmall, List.head?_cons, ne_eq, Option.some.injEq]
      exact hall n hsmall hn
    · rw [if_neg hsmall, List.head?_append_of_ne_nil _ Nat.toDigits_ne_nil]
      exact ih (n / 10) (by omega) (by omega)

/-! ## Numerals of at least some width -/

theorem isDigit_of_mem_writePadded {width n : Nat} {c : Char} (h : c ∈ writePadded width n) :
    c.isDigit = true := by
  rw [writePadded, List.mem_append] at h
  rcases h with hzero | hdigit
  · rw [List.eq_of_mem_replicate hzero]
    rfl
  · exact isDigit_of_mem_write hdigit

/-- The zeros in front do not change the value. -/
theorem ofDigitChars_writePadded (width n : Nat) :
    Nat.ofDigitChars 10 (writePadded width n) 0 = n := by
  rw [writePadded, Nat.ofDigitChars_append, Nat.ofDigitChars_replicate_zero, Nat.mul_zero, write,
    Nat.ofDigitChars_ten_toDigits]

theorem length_writePadded (width n : Nat) :
    (writePadded width n).length = max width (write n).length := by
  rw [writePadded, List.length_append, List.length_replicate]
  omega

/-- The numeral of a number that has no more digits than the width. -/
theorem length_writePadded_of_lt {width n : Nat} (hwidth : 0 < width) (hn : n < 10 ^ width) :
    (writePadded width n).length = width := by
  have hdigits : (write n).length ≤ width := (Nat.length_toDigits_le_iff (by decide) hwidth).mpr hn
  rw [length_writePadded, Nat.max_eq_left hdigits]

theorem writePadded_ne_nil (width n : Nat) : writePadded width n ≠ [] :=
  List.append_ne_nil_of_right_ne_nil _ (write_ne_nil n)

theorem exists_writePadded_eq_cons (width n : Nat) :
    ∃ c rest, writePadded width n = c :: rest ∧ c.isDigit = true := by
  obtain ⟨c, rest, hcons⟩ := List.exists_cons_of_ne_nil (writePadded_ne_nil width n)
  exact ⟨c, rest, hcons, isDigit_of_mem_writePadded (hcons ▸ List.mem_cons_self)⟩

end RecurringBilling.Text.Decimal

namespace RecurringBilling

open RecurringBilling.Text

/-! ## Identifiers -/

/-- Exactly the numerals of a number of 64 bits, with blanks around them, are read as an
identifier. -/
theorem readIdentifier_eq_ok_iff {s : List Char} {n : Nat} :
    readIdentifier s = .ok n ↔ Decimal.Denotes (trim s) n ∧ n < identifierBound :=
  Decimal.read_eq_ok_iff (by decide)

theorem readIdentifier_write {n : Nat} (hn : n < identifierBound) :
    readIdentifier (Decimal.write n) = .ok n := by
  rw [readIdentifier_eq_ok_iff, trim_of_forall_not_blank fun c hc =>
    not_blank_of_isDigit (Decimal.isDigit_of_mem_write hc)]
  exact ⟨Decimal.denotes_write n, hn⟩

end RecurringBilling
