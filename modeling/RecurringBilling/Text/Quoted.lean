import RecurringBilling.Text.Unprintable

/-!
# Quoted text for messages

A text inside a message stands between double quotes.  Quotes, backslashes and
the usual control characters are escaped by name; characters that cannot be
seen, or that would merge with the character before them, by their code point.
-/

namespace RecurringBilling.Text.Quoted

/-- The written form of one character between quotes. -/
def escape (c : Char) : List Char :=
  if c = '\x00' then ['\\', '0']
  else if c = '\t' then ['\\', 't']
  else if c = '\r' then ['\\', 'r']
  else if c = '\n' then ['\\', 'n']
  else if c = '"' || c = '\\' then ['\\', c]
  else if needsEscape c then
    ['\\', 'u', '\x7b'] ++ Nat.toDigits 16 c.toNat ++ ['\x7d']
  else [c]

/-- The text between double quotes. -/
def write (s : List Char) : List Char := '"' :: s.flatMap escape ++ ['"']

end RecurringBilling.Text.Quoted
