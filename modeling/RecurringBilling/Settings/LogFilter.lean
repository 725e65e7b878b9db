import RecurringBilling.Text.Alphabetic
import RecurringBilling.Text.Blank
import RecurringBilling.Text.Decimal
import RecurringBilling.Text.Numeric
import RecurringBilling.Text.Split

/-!
# Log filters

A log filter is a list of directives with commas between them.  A directive names
a level, a target, or a target and its level.
-/

namespace RecurringBilling.LogFilter

open RecurringBilling.Text

/-- Why a text is no log filter. -/
inductive Flaw where
  | directive
  | level
  deriving DecidableEq, Repr

/-- The reason in words. -/
def Flaw.message : Flaw → String
  | .directive => "invalid filter directive"
  | .level =>
    "error parsing level filter: expected one of \"off\", \"error\", \"warn\", \"info\", \"debug\", "
      ++ "\"trace\", or a number 0-5"

/-- The names of the levels, from the quietest to the loudest. -/
def levels : List String := ["off", "error", "warn", "info", "debug", "trace"]

/-- The text names a level, by name in any case or by number. -/
def isLevel (s : List Char) : Bool :=
  levels.contains (String.ofList (s.map Char.toLower))
    || match Decimal.read levels.length s with
      | .ok _ => true
      | .error _ => false

/-- A character that a directive may start with. -/
def isStart (c : Char) : Bool :=
  ['[', '-', ':', '_'].contains c || isLetter c || isNumeric c

/-- What follows the target of a directive. -/
inductive Ending where
  | bare
  | level (start : Nat)
  | unclosed
  deriving DecidableEq, Repr

/-- Finds the equals sign before a level.  What stands between brackets names a
span and does not count. -/
def ending : (inSpan : Bool) → (position : Nat) → List Char → Ending
  | true, _, [] => .unclosed
  | false, _, [] => .bare
  | false, i, '=' :: _ => .level (i + 1)
  | false, i, '[' :: rest => ending true (i + 1) rest
  | true, i, ']' :: rest => ending false (i + 1) rest
  | inSpan, i, _ :: rest => ending inSpan (i + 1) rest

/-- The flaw of one directive.  Blanks around it do not count when its level is
looked for, but the level is counted off from the start of the whole text and
reaches to its end. -/
def directiveFlaw? (s : List Char) : Option Flaw :=
  let trimmed := trim s
  if !(trimmed.head?.any isStart) then some .directive
  else
    match ending false 0 trimmed with
    | .bare => none
    | .unclosed => some .directive
    | .level start =>
      let level := s.drop start
      if level.isEmpty || isLevel level then none else some .level

/-- The flaw of the first directive that has one.  Empty directives are passed
over. -/
def flaw? (s : List Char) : Option Flaw :=
  ((splitAt ',' s).filter fun directive => !directive.isEmpty).findSome?
    directiveFlaw?

end RecurringBilling.LogFilter
