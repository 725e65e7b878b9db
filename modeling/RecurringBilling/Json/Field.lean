import RecurringBilling.Json.Value

/-!
# Fields of objects

An object that is exchanged holds its fields in any order.  A field that is
`null` counts as left out; of members that share a name the last one counts.
-/

namespace RecurringBilling.Json

/-- The members of an object. -/
abbrev Members := List (String × Json)

/-- Puts a member in front, unless one of the others has its name. -/
def putOlder (name : String) (v : Json) (members : Members) : Members :=
  if members.any fun m => m.1 == name then members else (name, v) :: members

mutual

/-- Keeps the last of the members that share a name, in every object. -/
def settle : Json → Json
  | .list items => .list (settleItems items)
  | .object members => .object (settleMembers members)
  | v => v

/-- Keeps the last of such members in every item. -/
def settleItems : List Json → List Json
  | [] => []
  | v :: rest => settle v :: settleItems rest

/-- Keeps the last of such members among members and in their values. -/
def settleMembers : List (String × Json) → List (String × Json)
  | [] => []
  | (name, v) :: rest => putOlder name (settle v) (settleMembers rest)

end

/-- The members of an object value. -/
def members? : Json → Option Members
  | .object members => some members
  | _ => none

/-- The items of a list value. -/
def items? : Json → Option (List Json)
  | .list items => some items
  | _ => none

/-- A natural number of at most 32 bits. -/
def unsigned32? (v : Json) : Option Nat := (v.integerBetween? 0 4294967295).map Int.toNat

/-- A signed integer of at most 32 bits. -/
def signed32? (v : Json) : Option Int := v.integerBetween? (-2147483648) 2147483647

/-- A value that may be missing. -/
def ofOption {α : Type} (toJson : α → Json) : Option α → Json
  | none => .null
  | some a => toJson a

namespace Members

/-- The value of a field. -/
def field? (o : Members) (name : String) : Option Json :=
  match o.lookup name with
  | some .null => none
  | v => v

/-- A field that must be there. -/
def required {α : Type} (o : Members) (name : String) (read? : Json → Option α) : Option α :=
  (o.field? name).bind read?

/-- A field that may be left out. -/
def optional {α : Type} (o : Members) (name : String) (read? : Json → Option α) :
    Option (Option α) :=
  match o.field? name with
  | none => some none
  | some v => (read? v).map some

end Members

end RecurringBilling.Json
