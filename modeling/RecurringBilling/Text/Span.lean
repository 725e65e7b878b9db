/-!
# Sorted tables of code point ranges

A character class is given by a table of inclusive code point ranges.  `scan`
is plain membership; `search` halves the table and is meant for tables whose
ranges are increasing and disjoint (`Increasing`).  Nothing here knows which
property a table stands for.
-/

namespace RecurringBilling.Text

/-- An inclusive range of code points. -/
structure Span where
  lo : Nat
  hi : Nat
  deriving DecidableEq, Repr

/-- The code point lies in the range. -/
def Span.Contains (s : Span) (c : Nat) : Prop := s.lo ≤ c ∧ c ≤ s.hi

instance (s : Span) (c : Nat) : Decidable (s.Contains c) :=
  inferInstanceAs (Decidable (s.lo ≤ c ∧ c ≤ s.hi))

/-- A character class as a list of ranges. -/
abbrev SpanTable := Array Span

namespace SpanTable

/-- Membership by looking at every range. -/
def scan (table : SpanTable) (c : Nat) : Bool :=
  table.toList.any fun s => decide (s.Contains c)

/-- Every range is non-empty and ends before the next one starts. -/
def Increasing : List Span → Prop
  | [] => True
  | [s] => s.lo ≤ s.hi
  | s :: t :: rest => s.lo ≤ s.hi ∧ s.hi < t.lo ∧ Increasing (t :: rest)

/-- Looks for `c` among the ranges at positions `start ≤ i < stop`, halving the
interval at each of at most `fuel` steps. -/
def searchBetween (table : SpanTable) (c : Nat) : (fuel start stop : Nat) → Bool
  | 0, _, _ => false
  | fuel + 1, start, stop =>
    if start < stop then
      let mid := start + (stop - start) / 2
      match table[mid]? with
      | none => false
      | some s =>
        if s.hi < c then searchBetween table c fuel (mid + 1) stop
        else if c < s.lo then searchBetween table c fuel start mid
        else true
    else false

/-- Membership by halving; the table's size bounds the number of steps. -/
def search (table : SpanTable) (c : Nat) : Bool :=
  searchBetween table c table.size 0 table.size

end SpanTable

theorem SpanTable.scan_eq_true_iff (table : SpanTable) (c : Nat) :
    table.scan c = true ↔ ∃ s ∈ table.toList, s.Contains c := by
  simp only [SpanTable.scan, List.any_eq_true, decide_eq_true_eq]

end RecurringBilling.Text
