import RecurringBilling.Text.Alphabetic
import RecurringBilling.Text.Blank
import RecurringBilling.Text.LetterCase
import RecurringBilling.Text.Numeric

/-!
# Passwords

A password has at least 8 characters, among them an upper case letter, a lower
case letter, a number and a special character.  Nothing is trimmed.
-/

namespace RecurringBilling

open RecurringBilling.Text

namespace Password

/-- The rule that a text breaks. -/
inductive Flaw where
  | tooShort
  | noUpperCase
  | noLowerCase
  | noNumber
  | noSpecial
  deriving DecidableEq, Repr

/-- The rule in words. -/
def Flaw.message : Flaw → String
  | .tooShort => "password must be at least 8 characters long"
  | .noUpperCase => "password must contain at least one uppercase letter"
  | .noLowerCase => "password must contain at least one lowercase letter"
  | .noNumber => "password must contain at least one number"
  | .noSpecial => "password must contain at least one special character"

/-- A character that is neither letter, number nor blank. -/
def isSpecial (c : Char) : Bool := !isLetter c && !isNumeric c && !isBlank c

/-- The first rule that a text breaks. -/
def flaw? (s : List Char) : Option Flaw :=
  if s.length < 8 then some .tooShort
  else if !s.any isUpperCase then some .noUpperCase
  else if !s.any isLowerCase then some .noLowerCase
  else if !s.any isNumeric then some .noNumber
  else if !s.any isSpecial then some .noSpecial
  else none

end Password

/-- A password that satisfies the rules, in plain text. -/
structure Password where
  plaintext : String
  accepted : Password.flaw? plaintext.toList = none

namespace Password

/-- The password that a text is. -/
def ofText (raw : String) : Except Flaw Password :=
  match h : flaw? raw.toList with
  | some flaw => .error flaw
  | none => .ok ⟨raw, h⟩

/-- What is shown in place of a password. -/
def redacted : String := "Password(Secret([REDACTED alloc::string::String]))"

end Password

end RecurringBilling
