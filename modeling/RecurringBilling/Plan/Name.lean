import RecurringBilling.Text.Blank
import RecurringBilling.Text.NameRules

/-!
# Plan names

A plan name has 2 to 100 letters, digits, spaces, hyphens, underscores and
periods, starts and ends with a letter or digit, and has no two spaces and no
three marks in a row.  Blanks around it do not count.
-/

namespace RecurringBilling

open RecurringBilling.Text

namespace PlanName

/-- The rule that a text breaks. -/
abbrev Flaw := NameFlaw

/-- The rule in words. -/
def Flaw.message : Flaw → String
  | .missing => "plan name is required"
  | .tooShort => "plan name must be at least 2 characters long"
  | .tooLong => "plan name cannot exceed 100 characters"
  | .badStart => "plan name must start with a letter or digit"
  | .badEnd => "plan name must end with a letter or digit"
  | .doubledSpace => "plan name cannot contain consecutive spaces"
  | .foreignCharacter =>
    "plan name contains invalid characters (only letters, digits, spaces, hyphens, underscores, and periods are allowed)"
  | .crowdedMarks => "plan name cannot contain more than 2 consecutive punctuation marks"

/-- A mark that a name may hold. -/
def isMark (c : Char) : Bool := c = '-' || c = '_' || c = '.'

/-- What such a name admits. -/
def rules : NameRules where
  shortest := 2
  longest := 100
  isStart := isLetterOrDigit
  isMark := isMark
  marksInARow := 2

/-- The first rule that a trimmed text breaks. -/
def flaw? (s : List Char) : Option Flaw := rules.flaw? s

/-- The texts that are plan names. -/
def Accepts (s : List Char) : Prop := trim s = s ∧ flaw? s = none

instance (s : List Char) : Decidable (Accepts s) :=
  inferInstanceAs (Decidable (trim s = s ∧ flaw? s = none))

end PlanName

/-- The name of a plan. -/
structure PlanName where
  text : String
  accepted : PlanName.Accepts text.toList
  deriving DecidableEq

namespace PlanName

/-- The name that a text gives, blanks around it left out. -/
def ofText (raw : String) : Except Flaw PlanName :=
  match h : flaw? (trim raw.toList) with
  | some flaw => .error flaw
  | none =>
    .ok ⟨String.ofList (trim raw.toList), by
      rw [String.toList_ofList]
      exact ⟨trim_trim raw.toList, h⟩⟩

end PlanName

end RecurringBilling
