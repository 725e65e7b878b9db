import RecurringBilling.Table.Column
import RecurringBilling.Table.Query

/-!
# Statements

What a table does around a statement is the same for all tables.  The numbers in the
statement are checked before it is run, and its answer becomes a value or a failure.
-/

namespace RecurringBilling.Statement

variable {ρ α : Type}

/-- The statement has changed a row, or there was none to change. -/
def affected (notFound : Failure) : Nat → Except Failure Unit
  | 0 => .error notFound
  | _ => .ok ()

/-- Inserts a row and reads the number that it gets. -/
def insert (run : ρ → Except QueryError BigColumn) (failure : QueryError → Failure)
    (row : Except Failure ρ) : Except Failure Nat :=
  match row with
  | .error f => .error f
  | .ok row =>
    match run row with
    | .error e => .error (failure e)
    | .ok column => BigColumn.toNat "id" column

/-- Writes a row in place of the one with its number. -/
def overwrite (run : ρ → Except QueryError Nat) (failure : QueryError → Failure)
    (notFound : Failure) (row : Except Failure ρ) : Except Failure Unit :=
  match row with
  | .error f => .error f
  | .ok row =>
    match run row with
    | .error e => .error (failure e)
    | .ok count => affected notFound count

/-- Removes the row with a number. -/
def remove (run : BigColumn → Except QueryError Nat) (attempt : String) (notFound : Failure)
    (n : Nat) : Except Failure Unit :=
  match BigColumn.ofNat "id" n with
  | .error f => .error f
  | .ok column =>
    match run column with
    | .error e => .error (e.toFailure attempt)
    | .ok count => affected notFound count

/-- Looks up the row with a number in a column and reads it. -/
def lookUp (field : String) (run : BigColumn → Except QueryError (Option ρ))
    (read : ρ → Except Failure α) (attempt : String) (n : Nat) : Except Failure (Option α) :=
  match BigColumn.ofNat field n with
  | .error f => .error f
  | .ok column =>
    match run column with
    | .error e => .error (e.toFailure attempt)
    | .ok none => .ok none
    | .ok (some row) => (read row).map some

/-- Lists the rows that a statement has selected and reads them. -/
def list (rows : Except QueryError (List ρ)) (read : ρ → Except Failure α) (attempt : String) :
    Except Failure (List α) :=
  match rows with
  | .error e => .error (e.toFailure attempt)
  | .ok rows => rows.mapM read

end RecurringBilling.Statement
