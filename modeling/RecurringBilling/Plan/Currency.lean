import RecurringBilling.Plan.CurrencyTable
import RecurringBilling.Text.Blank

/-!
# Currencies

A currency is a row of the table, chosen by its code of three capital letters.
A code of the wrong length is told from one that is not in the table; the length
is counted in bytes.
-/

namespace RecurringBilling

open RecurringBilling.Text

/-- A currency of the table. -/
structure Currency where
  info : CurrencyInfo
  listed : info ∈ currencyTable
  deriving DecidableEq

namespace Currency

/-- Why a text is no currency code. -/
inductive Flaw where
  | missing
  | wrongLength
  | unknown (code : String)
  deriving DecidableEq, Repr

/-- The reason in words. -/
def Flaw.message : Flaw → String
  | .missing => "currency code cannot be empty"
  | .wrongLength => "currency code must be exactly 3 characters"
  | .unknown code => "invalid currency code: " ++ code

/-- The alphabetic code of the currency. -/
def code (c : Currency) : String := c.info.code

/-- The currency with a code, letter by letter. -/
def ofCode? (code : String) : Option Currency :=
  match h : currencyTable.find? (·.code == code) with
  | some info => some ⟨info, List.mem_of_find?_eq_some h⟩
  | none => none

/-- The currency that a text names, blanks around it left out. -/
def ofText (raw : String) : Except Flaw Currency :=
  let s := trim raw.toList
  if s.isEmpty then .error .missing
  else if byteLength s ≠ 3 then .error .wrongLength
  else
    match ofCode? (String.ofList s) with
    | some c => .ok c
    | none => .error (.unknown (String.ofList s))

end Currency

end RecurringBilling
