import RecurringBilling.Json.Value

/-!
# Reading values in full

A reader that takes in every part of a value breaks off at the first part that is
flawed.  It still gets to the end of the value when that part is the last one and
breaks at its own end; then only closing brackets are left, one for each list or
object that has been opened.
-/

namespace RecurringBilling.Json

mutual

/-- Where reading the value in full breaks off, if it does. -/
def flaw? : Json → Option Flaw
  | .flawed flaw => some flaw
  | .list items => itemsFlaw? items
  | .object members => membersFlaw? members
  | _ => none

/-- Where reading the items of a list breaks off. -/
def itemsFlaw? : List Json → Option Flaw
  | [] => none
  | [v] => flaw? v
  | v :: w :: rest => if (flaw? v).isSome then some .inside else itemsFlaw? (w :: rest)

/-- Where reading the members of an object breaks off. -/
def membersFlaw? : List (String × Json) → Option Flaw
  | [] => none
  | [(_, v)] => flaw? v
  | (_, v) :: m :: rest => if (flaw? v).isSome then some .inside else membersFlaw? (m :: rest)

end

mutual

/-- The number of lists and objects that stand within one another. -/
def nesting : Json → Nat
  | .list items => itemsNesting items + 1
  | .object members => membersNesting members + 1
  | _ => 0

/-- The greatest nesting of an item. -/
def itemsNesting : List Json → Nat
  | [] => 0
  | v :: rest => max (nesting v) (itemsNesting rest)

/-- The greatest nesting of the value of a member. -/
def membersNesting : List (String × Json) → Nat
  | [] => 0
  | (_, v) :: rest => max (nesting v) (membersNesting rest)

end

end RecurringBilling.Json
