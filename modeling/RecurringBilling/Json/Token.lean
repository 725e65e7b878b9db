import RecurringBilling.Json.Numeral

/-!
# Tokens of a JSON text

The text is a sequence of characters in which `none` stands for a byte that
belongs to no character; such a byte is refused outside of string literals.
Words and numerals are maximal runs of their characters and are checked as a
whole.  Escapes of a literal are resolved after its end has been found.
-/

namespace RecurringBilling.Json

/-- A token.  A literal without text has unpaired surrogates or foreign bytes. -/
inductive Token where
  | openBrace
  | closeBrace
  | openBracket
  | closeBracket
  | colon
  | comma
  | scalar (v : Json)
  | literal (content : Except Flaw String)
  deriving Inhabited

namespace Token

/-! ## Words -/

/-- The value of a bare word. -/
def word? (spelling : List Char) : Option Json :=
  if spelling = ['n', 'u', 'l', 'l'] then some .null
  else if spelling = ['t', 'r', 'u', 'e'] then some (.bool true)
  else if spelling = ['f', 'a', 'l', 's', 'e'] then some (.bool false)
  else none

/-! ## String literals -/

/-- A piece of a literal: a character that stands for itself, a byte that stands
for nothing, or an escaped 16-bit unit. -/
inductive Piece where
  | plain (c : Option Char)
  | unit (n : Nat)
  deriving DecidableEq, Repr

/-- The value of a hexadecimal digit. -/
def hexValue? (c : Char) : Option Nat :=
  if 48 ≤ c.toNat ∧ c.toNat ≤ 57 then some (c.toNat - 48)
  else if 97 ≤ c.toNat ∧ c.toNat ≤ 102 then some (c.toNat - 87)
  else if 65 ≤ c.toNat ∧ c.toNat ≤ 70 then some (c.toNat - 55)
  else none

/-- The 16-bit unit of four hexadecimal digits. -/
def hexUnit? : Option Char → Option Char → Option Char → Option Char → Option Nat
  | some a, some b, some c, some d =>
    match hexValue? a, hexValue? b, hexValue? c, hexValue? d with
    | some w, some x, some y, some z => some (((w * 16 + x) * 16 + y) * 16 + z)
    | _, _, _, _ => none
  | _, _, _, _ => none

/-- The character that a one-letter escape stands for. -/
def shortEscape? (c : Char) : Option Char :=
  if c = '"' || c = '\\' || c = '/' then some c
  else if c = 'b' then some '\x08'
  else if c = 'f' then some '\x0c'
  else if c = 'n' then some '\n'
  else if c = 'r' then some '\r'
  else if c = 't' then some '\t'
  else none

/-- Splits the inside of a literal into pieces; an unknown escape is refused. -/
def pieces? : List (Option Char) → Option (List Piece)
  | [] => some []
  | some '\\' :: some 'u' :: a :: b :: c :: d :: rest =>
    match hexUnit? a b c d with
    | some n => (pieces? rest).map (.unit n :: ·)
    | none => none
  | some '\\' :: some e :: rest =>
    match shortEscape? e with
    | some c => (pieces? rest).map (.plain (some c) :: ·)
    | none => none
  | some '\\' :: _ => none
  | c :: rest => (pieces? rest).map (.plain c :: ·)

/-- The unit starts a surrogate pair. -/
def isHigh (n : Nat) : Bool := 0xD800 ≤ n && n ≤ 0xDBFF

/-- The unit ends a surrogate pair. -/
def isLow (n : Nat) : Bool := 0xDC00 ≤ n && n ≤ 0xDFFF

/-- The characters that pieces spell.  An unpaired surrogate breaks the literal
inside, unless it starts a pair and only the closing quote follows; a foreign byte
breaks it when all else has been read. -/
def spell : List Piece → Except Flaw (List Char)
  | [] => .ok []
  | .plain none :: rest =>
    match spell rest with
    | .error .inside => .error .inside
    | _ => .error .atEnd
  | .plain (some c) :: rest => (spell rest).map (c :: ·)
  | [.unit n] =>
    if isHigh n then .error .atEnd
    else if isLow n then .error .inside
    else .ok [Char.ofNat n]
  | .unit n :: .unit m :: rest =>
    if isHigh n && isLow m then
      (spell rest).map (Char.ofNat (0x10000 + (n - 0xD800) * 1024 + (m - 0xDC00)) :: ·)
    else if isHigh n || isLow n then .error .inside
    else (spell (.unit m :: rest)).map (Char.ofNat n :: ·)
  | .unit n :: rest =>
    if isHigh n || isLow n then .error .inside else (spell rest).map (Char.ofNat n :: ·)

/-- The token of a literal with the given inside. -/
def literal? (inside : List (Option Char)) : Option Token :=
  (pieces? inside).map fun ps => .literal ((spell ps).map String.ofList)

/-! ## Splitting a text into tokens -/

/-- What the characters read so far have left open.  Open parts are held
backwards. -/
inductive Pending where
  | nothing
  | word (spelling : List Char)
  | numeral (spelling : List Char)
  | inside (content : List (Option Char))
  | escaped (content : List (Option Char))

/-- A character that a numeral may hold. -/
def isNumeralChar (c : Char) : Bool :=
  c.isDigit || c = '-' || c = '+' || c = '.' || c = 'e' || c = 'E'

/-- The token of a punctuation mark. -/
def punctuation? (c : Char) : Option Token :=
  if c = '\x7b' then some .openBrace
  else if c = '\x7d' then some .closeBrace
  else if c = '[' then some .openBracket
  else if c = ']' then some .closeBracket
  else if c = ':' then some .colon
  else if c = ',' then some .comma
  else none

/-- A blank between tokens. -/
def isSpace (c : Char) : Bool := c = ' ' || c = '\n' || c = '\t' || c = '\r'

/-- A character where nothing is open: the tokens it completes and what it
leaves open. -/
def start? (c : Char) : Option (List Token × Pending) :=
  if isSpace c then some ([], .nothing)
  else
    match punctuation? c with
    | some t => some ([t], .nothing)
    | none =>
      if c = '"' then some ([], .inside [])
      else if c.isDigit || c = '-' then some ([], .numeral [c])
      else if c.isLower then some ([], .word [c])
      else none

/-- One more character: the tokens it completes and what is open after it. -/
def step? : Pending → Option Char → Option (List Token × Pending)
  | .nothing, some c => start? c
  | .word s, some c =>
    if c.isLower then some ([], .word (c :: s))
    else
      match word? s.reverse, start? c with
      | some v, some (ts, p) => some (.scalar v :: ts, p)
      | _, _ => none
  | .numeral s, some c =>
    if isNumeralChar c then some ([], .numeral (c :: s))
    else
      match Numeral.value? s.reverse, start? c with
      | some v, some (ts, p) => some (.scalar v :: ts, p)
      | _, _ => none
  | .inside s, some c =>
    if c = '"' then
      match literal? s.reverse with
      | some t => some ([t], .nothing)
      | none => none
    else if c = '\\' then some ([], .escaped (some c :: s))
    else if c.toNat < 0x20 then none
    else some ([], .inside (some c :: s))
  | .inside s, none => some ([], .inside (none :: s))
  | .escaped s, c => some ([], .inside (c :: s))
  | _, none => none

/-- The tokens that the end of the text completes. -/
def finish? : Pending → Option (List Token)
  | .nothing => some []
  | .word s => (word? s.reverse).map ([.scalar ·])
  | .numeral s => (Numeral.value? s.reverse).map ([.scalar ·])
  | _ => none

/-- The tokens of a text of which `pending` has been left open. -/
def splitFrom? : Pending → List (Option Char) → Option (List Token)
  | pending, [] => finish? pending
  | pending, c :: rest =>
    match step? pending c with
    | none => none
    | some (ts, next) => (splitFrom? next rest).map (ts ++ ·)

/-- The tokens of a text. -/
def split? (s : List (Option Char)) : Option (List Token) := splitFrom? .nothing s

end Token

end RecurringBilling.Json
