import RecurringBilling.Json.Flaw

/-!
# Optional members

Members of a token's objects that may be left out.  A member that is there occurs
once, and has either the form that is expected of it or the value `null`.

A member that is looked into is read in full.  Its lists and objects may be nested
up to a limit; the reader stops at the bracket that goes beyond it.
-/

namespace RecurringBilling.Token

/-- The member is left out, or occurs once and passes the test. -/
def isOptional (name : String) (test : Json → Bool) (members : List (String × Json)) : Bool :=
  match Json.valuesOf name members with
  | [] => true
  | [v] => test v
  | _ => false

/-- The member passes the test or is `null`. -/
def isNullOr (test : Json → Bool) : Json → Bool
  | .null => true
  | v => test v

/-- The greatest nesting of a member that is read in full. -/
def maxNesting : Nat := 126

/-- Where reading a member in full breaks off. -/
def memberFlaw? (v : Json) : Option Json.Flaw :=
  if maxNesting < v.nesting then some .inside else v.flaw?

/-- A string. -/
def isText (v : Json) : Bool := v.text?.isSome

/-- A list of strings. -/
def isTextList : Json → Bool
  | .list items => items.all isText
  | _ => false

/-- A case of an enumeration with the given names. -/
def isCaseOf (names : List String) (v : Json) : Bool := v.caseName?.any names.contains

end RecurringBilling.Token
