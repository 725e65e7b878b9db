/-!
# JSON values

The tree of a JSON text.  Numbers keep what the applications above need:
integers that fit 64 bits, signed or unsigned, are exact; every other numeral
is only known by its spelling.

Some texts that follow the grammar have no value all the same: a string literal
may hold half of a surrogate pair or bytes that are not UTF-8, a numeral may lie
beyond the range of 64-bit floating point, a name of an object may be such a
literal.  These are kept as `flawed`, since a reader that passes over them never
notices.
-/

namespace RecurringBilling

/-- Where reading a value breaks off: with its last character, so that a reader
stands behind it, or before. -/
inductive Json.Flaw where
  | atEnd
  | inside
  deriving DecidableEq, Repr

/-- A JSON value.  Object members stand in the order of the text, repetitions
included. -/
inductive Json where
  | null
  | bool (b : Bool)
  | integer (z : Int)
  | decimal (spelling : String)
  | text (s : String)
  | flawed (flaw : Json.Flaw)
  | list (items : List Json)
  | object (members : List (String × Json))
  deriving Inhabited, Repr

namespace Json

/-- The least integer that a numeral denotes exactly. -/
def minInteger : Int := -9223372036854775808

/-- The greatest integer that a numeral denotes exactly. -/
def maxInteger : Int := 18446744073709551615

/-- The greatest signed 64-bit integer. -/
def maxSigned : Int := 9223372036854775807

/-- A natural number as a value. -/
def nat (n : Nat) : Json := .integer n

/-- The text of a string value. -/
def text? : Json → Option String
  | .text s => some s
  | _ => none

/-- The truth value. -/
def bool? : Json → Option Bool
  | .bool b => some b
  | _ => none

/-- An integer between two bounds. -/
def integerBetween? (low high : Int) : Json → Option Int
  | .integer z => if low ≤ z ∧ z ≤ high then some z else none
  | _ => none

/-- A natural number of at most 64 bits. -/
def unsigned? (v : Json) : Option Nat := (v.integerBetween? 0 maxInteger).map Int.toNat

/-- A signed integer of at most 64 bits. -/
def signed? (v : Json) : Option Int := v.integerBetween? minInteger maxSigned

/-- The values that stand under a name, in order. -/
def valuesOf (name : String) (members : List (String × Json)) : List Json :=
  (members.filter fun m => m.1 == name).map Prod.snd

/-- The value under a name that must occur exactly once. -/
def sole? (name : String) (members : List (String × Json)) : Option Json :=
  match valuesOf name members with
  | [v] => some v
  | _ => none

/-- The name of an enumeration's case: a string, or an object whose only member
has that name and the value `null`. -/
def caseName? : Json → Option String
  | .text s => some s
  | .object [(name, .null)] => some name
  | _ => none

end Json

end RecurringBilling
