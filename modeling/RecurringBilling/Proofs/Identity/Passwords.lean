import RecurringBilling.Identity.Password
import RecurringBilling.Proofs.Text.Classes
import RecurringBilling.Proofs.Text.Reader

/-!
# Which texts are passwords

A password is long enough and has characters of four kinds.  Another text is refused for the first
of these things that it lacks, and nothing is left out of it before it is looked at.
-/

namespace RecurringBilling

open RecurringBilling.Text

namespace Password

/-- A character that is no letter, no number and no blank. -/
def IsSpecial (c : Char) : Prop :=
  ¬IsLetter c ∧ ¬IsNumeric c ∧ ¬Covers whiteSpace.toList c.toNat

/-- What keeps the text from being a password. -/
def Breaks (t : List Char) : Flaw → Prop
  | .tooShort => t.length < 8
  | .noUpperCase => ¬∃ c ∈ t, IsUpperCase c
  | .noLowerCase => ¬∃ c ∈ t, IsLowerCase c
  | .noNumber => ¬∃ c ∈ t, IsNumeric c
  | .noSpecial => ¬∃ c ∈ t, IsSpecial c

/-- The rules of passwords in the order in which they are looked at. -/
def Flaw.inOrder : List Flaw := [.tooShort, .noUpperCase, .noLowerCase, .noNumber, .noSpecial]

theorem isSpecial_eq_true_iff (c : Char) : isSpecial c = true ↔ IsSpecial c := by
  simp only [isSpecial, Bool.and_eq_true, Bool.not_eq_true', ← Bool.not_eq_true,
    isLetter_eq_true_iff, isNumeric_eq_true_iff, isBlank_eq_true_iff, IsSpecial, and_assoc]

/-- The rules find the first thing that a text lacks. -/
theorem firstBroken (t : List Char) : FirstBroken (Breaks t) Flaw.inOrder (flaw? t) :=
  .ite Iff.rfl <| .ite (not_any_eq_true_iff isUpperCase_eq_true_iff t) <|
    .ite (not_any_eq_true_iff isLowerCase_eq_true_iff t) <|
    .ite (not_any_eq_true_iff isNumeric_eq_true_iff t) <|
    .ite (not_any_eq_true_iff isSpecial_eq_true_iff t) .none

theorem ofText_of_flaw?_eq_none {raw : String} (h : flaw? raw.toList = none) :
    ofText raw = .ok ⟨raw, h⟩ := by
  rw [ofText]
  split
  · next flaw hflaw =>
    rw [h] at hflaw
    cases hflaw
  · rfl

theorem ofText_of_flaw?_eq_some {raw : String} {flaw : Flaw} (h : flaw? raw.toList = some flaw) :
    ofText raw = .error flaw := by
  rw [ofText]
  split
  · next other hother =>
    rw [h] at hother
    cases hother
    rfl
  · next hnone =>
    rw [h] at hnone
    cases hnone

theorem plaintext_of_ofText {raw : String} {password : Password}
    (h : ofText raw = .ok password) : password.plaintext = raw := by
  rw [ofText] at h
  split at h
  · cases h
  · cases h
    rfl

end Password

end RecurringBilling
