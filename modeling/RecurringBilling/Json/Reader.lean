import RecurringBilling.Json.Token
import RecurringBilling.Text.Utf8

/-!
# Reading JSON

A machine with a stack of open lists and objects reads the tokens one by one.
After the last token exactly one value must be complete and nothing open.
-/

namespace RecurringBilling.Json

/-- Members of an object, backwards.  A name may be a literal without text. -/
abbrev OpenMembers := List (Option String × Json)

/-- A list or object whose end has not come, contents backwards.  An object in
`field` waits for the value of its last name. -/
inductive Frame where
  | list (items : List Json)
  | object (members : OpenMembers)
  | field (members : OpenMembers) (name : Option String)

/-- What must come next. -/
inductive Phase where
  | value
  | firstItem
  | firstName
  | name
  | colon (name : Option String)
  | complete (v : Json)

/-- The value of an object at its end.  A name without text breaks it inside. -/
def closeObject (members : OpenMembers) : Json :=
  match members.reverse.mapM fun (name, v) => name.map (·, v) with
  | some named => .object named
  | none => .flawed .inside

/-- The value of a string literal. -/
def literalValue : Except Flaw String → Json
  | .ok s => .text s
  | .error flaw => .flawed flaw

/-- The state of the reading machine, innermost frame first. -/
structure Machine where
  stack : List Frame
  phase : Phase

namespace Machine

/-- Nothing read yet. -/
def start : Machine := ⟨[], .value⟩

/-- A token where a value is due. -/
def beginValue? (stack : List Frame) : Token → Option Machine
  | .scalar v => some ⟨stack, .complete v⟩
  | .literal content => some ⟨stack, .complete (literalValue content)⟩
  | .openBracket => some ⟨.list [] :: stack, .firstItem⟩
  | .openBrace => some ⟨.object [] :: stack, .firstName⟩
  | _ => none

/-- A token after a complete value `v`. -/
def afterValue? (v : Json) : List Frame → Token → Option Machine
  | .list items :: stack, .comma => some ⟨.list (v :: items) :: stack, .value⟩
  | .list items :: stack, .closeBracket => some ⟨stack, .complete (.list (v :: items).reverse)⟩
  | .field members name :: stack, .comma => some ⟨.object ((name, v) :: members) :: stack, .name⟩
  | .field members name :: stack, .closeBrace =>
    some ⟨stack, .complete (closeObject ((name, v) :: members))⟩
  | _, _ => none

/-- One token. -/
def step? (m : Machine) (t : Token) : Option Machine :=
  match m.phase, t with
  | .value, _ => beginValue? m.stack t
  | .firstItem, .closeBracket =>
    match m.stack with
    | .list _ :: stack => some ⟨stack, .complete (.list [])⟩
    | _ => none
  | .firstItem, _ => beginValue? m.stack t
  | .firstName, .closeBrace =>
    match m.stack with
    | .object _ :: stack => some ⟨stack, .complete (.object [])⟩
    | _ => none
  | .firstName, .literal content => some ⟨m.stack, .colon content.toOption⟩
  | .firstName, _ => none
  | .name, .literal content => some ⟨m.stack, .colon content.toOption⟩
  | .name, _ => none
  | .colon name, .colon =>
    match m.stack with
    | .object members :: stack => some ⟨.field members name :: stack, .value⟩
    | _ => none
  | .colon _, _ => none
  | .complete v, _ => afterValue? v m.stack t

/-- The machine after a sequence of tokens. -/
def run? (m : Machine) : List Token → Option Machine
  | [] => some m
  | t :: rest =>
    match m.step? t with
    | none => none
    | some m' => m'.run? rest

/-- The value, when exactly one is complete. -/
def result? (m : Machine) : Option Json :=
  match m.stack, m.phase with
  | [], .complete v => some v
  | _, _ => none

end Machine

/-- Reads the value of a text with foreign bytes marked. -/
def readMarked? (s : List (Option Char)) : Option Json :=
  match Token.split? s with
  | none => none
  | some ts =>
    match Machine.start.run? ts with
    | none => none
    | some m => m.result?

/-- Reads the value of a text. -/
def read? (s : List Char) : Option Json := readMarked? (s.map some)

/-- Reads the value of a byte sequence. -/
def readBytes? (bytes : List UInt8) : Option Json := readMarked? (Text.Utf8.decode bytes)

end RecurringBilling.Json
