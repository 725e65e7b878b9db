import RecurringBilling.Text.Blank
import RecurringBilling.Text.NameRules

/-!
# Names of persons

A name has 2 to 255 letters, digits, spaces, hyphens, apostrophes and periods,
starts with a letter, ends with a letter or digit, and has no two spaces and no
four marks in a row.  Blanks around it do not count.
-/

namespace RecurringBilling

open RecurringBilling.Text

namespace PersonName

/-- The rule that a text breaks. -/
abbrev Flaw := NameFlaw

/-- The rule in words. -/
def Flaw.message : Flaw → String
  | .missing => "name is required"
  | .tooShort => "name must be at least 2 characters long"
  | .tooLong => "name cannot exceed 255 characters"
  | .badStart => "name must start with a letter"
  | .badEnd => "name must end with a letter or digit"
  | .doubledSpace => "name cannot contain consecutive spaces"
  | .foreignCharacter =>
    "name contains invalid characters (only letters, digits, spaces, hyphens, apostrophes, and periods are allowed)"
  | .crowdedMarks => "name cannot contain more than 3 consecutive punctuation marks"

/-- A mark that a name may hold. -/
def isMark (c : Char) : Bool := c = '-' || c = '\'' || c = '.'

/-- What such a name admits. -/
def rules : NameRules where
  shortest := 2
  longest := 255
  isStart := isLetter
  isMark := isMark
  marksInARow := 3

/-- The first rule that a trimmed text breaks. -/
def flaw? (s : List Char) : Option Flaw := rules.flaw? s

/-- The texts that are names. -/
def Accepts (s : List Char) : Prop := trim s = s ∧ flaw? s = none

instance (s : List Char) : Decidable (Accepts s) :=
  inferInstanceAs (Decidable (trim s = s ∧ flaw? s = none))

end PersonName

/-- The name of a person. -/
structure PersonName where
  text : String
  accepted : PersonName.Accepts text.toList
  deriving DecidableEq

namespace PersonName

/-- The name that a text gives, blanks around it left out. -/
def ofText (raw : String) : Except Flaw PersonName :=
  match h : flaw? (trim raw.toList) with
  | some flaw => .error flaw
  | none =>
    .ok ⟨String.ofList (trim raw.toList), by
      rw [String.toList_ofList]
      exact ⟨trim_trim raw.toList, h⟩⟩

end PersonName

end RecurringBilling
