import RecurringBilling.Json.Value
import RecurringBilling.Text.Decimal

/-!
# Writing JSON

Values are written without blanks, members in their order.  In literals the
quote, the backslash and the controls below U+0020 are escaped, by letter where
there is one; every other character stands for itself.
-/

namespace RecurringBilling.Json

open RecurringBilling.Text

/-- The written form of one character of a literal. -/
def escapeChar (c : Char) : List Char :=
  if c = '"' || c = '\\' then ['\\', c]
  else if c = '\x08' then ['\\', 'b']
  else if c = '\x0c' then ['\\', 'f']
  else if c = '\n' then ['\\', 'n']
  else if c = '\r' then ['\\', 'r']
  else if c = '\t' then ['\\', 't']
  else if c.toNat < 0x20 then
    ['\\', 'u', '0', '0', Nat.digitChar (c.toNat / 16), Nat.digitChar (c.toNat % 16)]
  else [c]

/-- A string as a literal. -/
def writeText (s : String) : List Char := '"' :: s.toList.flatMap escapeChar ++ ['"']

mutual

/-- The text of a value. -/
def write : Json → List Char
  | .null => ['n', 'u', 'l', 'l']
  | .bool true => ['t', 'r', 'u', 'e']
  | .bool false => ['f', 'a', 'l', 's', 'e']
  | .integer z => Decimal.writeInt z
  | .decimal spelling => spelling.toList
  | .text s => writeText s
  | .flawed _ => ['"', '"']
  | .list items => '[' :: writeItems items ++ [']']
  | .object members => '\x7b' :: writeMembers members ++ ['\x7d']

/-- The items of a list, with commas between them. -/
def writeItems : List Json → List Char
  | [] => []
  | [v] => write v
  | v :: w :: rest => write v ++ ',' :: writeItems (w :: rest)

/-- The members of an object, with commas between them. -/
def writeMembers : List (String × Json) → List Char
  | [] => []
  | [(name, v)] => writeText name ++ ':' :: write v
  | (name, v) :: m :: rest => writeText name ++ ':' :: write v ++ ',' :: writeMembers (m :: rest)

end

/-- The text of a value, as a string. -/
def render (v : Json) : String := String.ofList (write v)

end RecurringBilling.Json
