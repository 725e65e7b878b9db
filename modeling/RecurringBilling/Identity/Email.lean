import RecurringBilling.Text.Blank
import RecurringBilling.Text.Digit
import RecurringBilling.Text.Run
import RecurringBilling.Text.Split

/-!
# E-mail addresses

An address is a local part and a domain with one `@` between them.  The local
part is a dotted sequence of words; the domain is a dotted sequence of at least
two labels of which the last is made of letters.  Letters and digits of every
script are admitted, lengths are counted in bytes.  Two addresses name the same
mailbox when they agree up to the case of ASCII letters.
-/

namespace RecurringBilling

open RecurringBilling.Text

namespace Email

/-- The rule that a text breaks. -/
inductive Flaw where
  | missing
  | tooLong
  | atMissing
  | atRepeated
  | localTooLong
  | localDoubledDot
  | localDotAtEdge
  | localForeignCharacter
  | domainTooLong
  | domainDotAtEdge
  | domainHyphenAtEdge
  | domainWithoutDot
  | domainDoubledDot
  | labelTooLong
  | topLevelTooShort
  | topLevelNotLetters
  | labelHyphenAtEdge
  | labelForeignCharacter
  deriving DecidableEq, Repr

/-- The rule in words. -/
def Flaw.message : Flaw → String
  | .missing => "email is required"
  | .tooLong => "email exceeds maximum length of 320 characters"
  | .atMissing => "invalid email format: missing @ symbol or invalid position"
  | .atRepeated => "invalid email format: multiple @ symbols found"
  | .localTooLong => "email local part exceeds maximum length of 64 characters"
  | .localDoubledDot => "email local part cannot contain consecutive dots"
  | .localDotAtEdge => "email local part cannot start or end with a dot"
  | .localForeignCharacter => "email local part contains invalid characters"
  | .domainTooLong => "email domain exceeds maximum length of 255 characters"
  | .domainDotAtEdge => "email domain cannot start or end with a dot"
  | .domainHyphenAtEdge => "email domain cannot start or end with a hyphen"
  | .domainWithoutDot => "email domain must contain at least one dot"
  | .domainDoubledDot => "email domain cannot contain consecutive dots"
  | .labelTooLong => "email domain label exceeds maximum length of 63 characters"
  | .topLevelTooShort => "email top-level domain must be at least 2 characters"
  | .topLevelNotLetters => "email top-level domain must contain only letters"
  | .labelHyphenAtEdge => "email domain label cannot start or end with hyphen"
  | .labelForeignCharacter => "email domain label contains invalid characters"

/-- The marks that a local part may hold. -/
def localMarks : List Char :=
  ['!', '#', '$', '%', '&', '\'', '*', '+', '-', '/', '=', '?', '^', '_', '`', '\x7b', '|',
    '\x7d', '~', '.']

/-- A character that a local part may hold. -/
def isLocalChar (c : Char) : Bool := isLetterOrDigit c || localMarks.contains c

/-- A character that a label other than the last may hold. -/
def isLabelChar (c : Char) : Bool := isLetterOrDigit c || c = '-'

/-- The text starts or ends with a mark. -/
def hasAtEdge (mark : Char) (s : List Char) : Bool :=
  s.head? == some mark || s.getLast? == some mark

/-- The first rule that a local part breaks. -/
def localFlaw? (s : List Char) : Option Flaw :=
  if 64 < byteLength s then some .localTooLong
  else if hasRun (· = '.') 2 s then some .localDoubledDot
  else if hasAtEdge '.' s then some .localDotAtEdge
  else if !s.all isLocalChar then some .localForeignCharacter
  else none

/-- The first rule that the last label of a domain breaks. -/
def topLevelFlaw? (label : List Char) : Option Flaw :=
  if 63 < byteLength label then some .labelTooLong
  else if label.length < 2 then some .topLevelTooShort
  else if !label.all isLetter then some .topLevelNotLetters
  else none

/-- The first rule that another label breaks. -/
def labelFlaw? (label : List Char) : Option Flaw :=
  if 63 < byteLength label then some .labelTooLong
  else if hasAtEdge '-' label then some .labelHyphenAtEdge
  else if !label.all isLabelChar then some .labelForeignCharacter
  else none

/-- The first rule that a sequence of labels breaks. -/
def labelsFlaw? : List (List Char) → Option Flaw
  | [] => none
  | [label] => topLevelFlaw? label
  | label :: rest =>
    match labelFlaw? label with
    | some flaw => some flaw
    | none => labelsFlaw? rest

/-- The first rule that a domain breaks. -/
def domainFlaw? (s : List Char) : Option Flaw :=
  if 255 < byteLength s then some .domainTooLong
  else if hasAtEdge '.' s then some .domainDotAtEdge
  else if hasAtEdge '-' s then some .domainHyphenAtEdge
  else if !s.contains '.' then some .domainWithoutDot
  else if hasRun (· = '.') 2 s then some .domainDoubledDot
  else labelsFlaw? (splitAt '.' s)

/-- What stands before the first `@`. -/
def localPart (s : List Char) : List Char := s.takeWhile (· ≠ '@')

/-- What stands after the first `@`. -/
def afterAt (s : List Char) : List Char := (s.dropWhile (· ≠ '@')).drop 1

/-- The first rule that a trimmed text breaks. -/
def flaw? (s : List Char) : Option Flaw :=
  if s.isEmpty then some .missing
  else if 320 < byteLength s then some .tooLong
  else if (localPart s).isEmpty || (afterAt s).isEmpty then some .atMissing
  else if (afterAt s).contains '@' then some .atRepeated
  else
    match localFlaw? (localPart s) with
    | some flaw => some flaw
    | none => domainFlaw? (afterAt s)

/-- The texts that are addresses. -/
def Accepts (s : List Char) : Prop := trim s = s ∧ flaw? s = none

instance (s : List Char) : Decidable (Accepts s) :=
  inferInstanceAs (Decidable (trim s = s ∧ flaw? s = none))

end Email

/-- An e-mail address. -/
structure Email where
  text : String
  accepted : Email.Accepts text.toList
  deriving DecidableEq

namespace Email

/-- The address that a text gives, blanks around it left out. -/
def ofText (raw : String) : Except Flaw Email :=
  match h : flaw? (trim raw.toList) with
  | some flaw => .error flaw
  | none =>
    .ok ⟨String.ofList (trim raw.toList), by
      rw [String.toList_ofList]
      exact ⟨trim_trim raw.toList, h⟩⟩

/-- What stands after the last `@`. -/
def domain (e : Email) : String :=
  String.ofList (e.text.toList.reverse.takeWhile (· ≠ '@')).reverse

/-- The address with its ASCII letters in lower case. -/
def folded (e : Email) : List Char := e.text.toList.map Char.toLower

/-- The two addresses name the same mailbox. -/
def SameMailbox (e f : Email) : Prop := e.folded = f.folded

instance (e f : Email) : Decidable (SameMailbox e f) :=
  inferInstanceAs (Decidable (e.folded = f.folded))

end Email

end RecurringBilling
