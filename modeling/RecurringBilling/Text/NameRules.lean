import RecurringBilling.Text.Digit
import RecurringBilling.Text.Run

/-!
# Rules of names

Plans and persons have names that are checked alike.  A name consists of letters,
digits, spaces and marks and has no two spaces in a row.  What it may start with,
which marks there are, how many of them may follow each other and how long it may
be is up to the kind of name.
-/

namespace RecurringBilling

open RecurringBilling.Text

/-- The rule that a name breaks. -/
inductive NameFlaw where
  | missing
  | tooShort
  | tooLong
  | badStart
  | badEnd
  | doubledSpace
  | foreignCharacter
  | crowdedMarks
  deriving DecidableEq, Repr

/-- What a kind of name admits. -/
structure NameRules where
  shortest : Nat
  longest : Nat
  isStart : Char → Bool
  isMark : Char → Bool
  marksInARow : Nat

namespace NameRules

/-- A character that a name may hold. -/
def isAllowed (rules : NameRules) (c : Char) : Bool :=
  isLetterOrDigit c || c = ' ' || rules.isMark c

/-- The first rule that a trimmed text breaks. -/
def flaw? (rules : NameRules) (s : List Char) : Option NameFlaw :=
  if s.isEmpty then some .missing
  else if s.length < rules.shortest then some .tooShort
  else if rules.longest < s.length then some .tooLong
  else if !s.head?.any rules.isStart then some .badStart
  else if !s.getLast?.any isLetterOrDigit then some .badEnd
  else if hasRun (· = ' ') 2 s then some .doubledSpace
  else if !s.all rules.isAllowed then some .foreignCharacter
  else if runsPast rules.isMark rules.marksInARow 0 s then some .crowdedMarks
  else none

end NameRules

end RecurringBilling
