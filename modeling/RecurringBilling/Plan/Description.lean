import RecurringBilling.Text.Blank
import RecurringBilling.Text.Run

/-!
# Plan descriptions

A description has at most 1000 printable characters, line feeds and tabs, and
no three spaces in a row.  Blanks around it do not count, and it may be empty.
-/

namespace RecurringBilling

open RecurringBilling.Text

namespace Description

/-- The rule that a text breaks. -/
inductive Flaw where
  | tooLong
  | controlCharacter
  | foreignCharacter
  | crowdedSpaces
  deriving DecidableEq, Repr

/-- The rule in words. -/
def Flaw.message : Flaw → String
  | .tooLong => "description cannot exceed 1000 characters"
  | .controlCharacter => "description cannot contain control characters"
  | .foreignCharacter =>
    "description contains invalid characters (only printable characters are allowed)"
  | .crowdedSpaces => "description cannot contain more than 2 consecutive spaces"

/-- Characters without a shape of their own, and the private use area of the
first plane. -/
def invisible : SpanTable :=
  #[⟨0xAD, 0xAD⟩, ⟨0x61C, 0x61C⟩, ⟨0x180E, 0x180E⟩, ⟨0x200B, 0x200F⟩, ⟨0x202A, 0x202E⟩,
    ⟨0x2060, 0x206F⟩, ⟨0xE000, 0xF8FF⟩, ⟨0xFEFF, 0xFEFF⟩, ⟨0xFFF9, 0xFFFB⟩]

/-- A character that a description shows.  Of the blanks only the plain space is
one. -/
def isPrintable (c : Char) : Bool :=
  c = ' ' || (!isControl c && !isBlank c && !invisible.search c.toNat)

/-- A line feed or a tab. -/
def isLayout (c : Char) : Bool := c = '\n' || c = '\t'

/-- The first rule that a trimmed text breaks. -/
def flaw? (s : List Char) : Option Flaw :=
  if s.isEmpty then none
  else if 1000 < s.length then some .tooLong
  else if s.any fun c => isControl c && !isLayout c then some .controlCharacter
  else if !s.all fun c => isPrintable c || isLayout c then some .foreignCharacter
  else if hasRun (· = ' ') 3 s then some .crowdedSpaces
  else none

/-- The texts that are descriptions. -/
def Accepts (s : List Char) : Prop := trim s = s ∧ flaw? s = none

instance (s : List Char) : Decidable (Accepts s) :=
  inferInstanceAs (Decidable (trim s = s ∧ flaw? s = none))

end Description

/-- What a plan offers, in words. -/
structure Description where
  text : String
  accepted : Description.Accepts text.toList
  deriving DecidableEq

namespace Description

/-- The description that a text gives, blanks around it left out. -/
def ofText (raw : String) : Except Flaw Description :=
  match h : flaw? (trim raw.toList) with
  | some flaw => .error flaw
  | none =>
    .ok ⟨String.ofList (trim raw.toList), by
      rw [String.toList_ofList]
      exact ⟨trim_trim raw.toList, h⟩⟩

/-- Nothing has been written. -/
def isEmpty (d : Description) : Bool := d.text.toList.isEmpty

end Description

end RecurringBilling
