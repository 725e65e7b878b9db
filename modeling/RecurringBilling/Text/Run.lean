/-!
# Runs of characters

`hasRun p n s` says that some `n` neighbouring characters of `s` all satisfy
`p`.  `runsPast p limit 0 s` counts the characters in a row that satisfy `p` and
stops as soon as there are more than `limit` of them.
-/

namespace RecurringBilling.Text

/-- The text starts with at least `n` characters that satisfy `p`. -/
def startsWithRun (p : Char → Bool) : (n : Nat) → List Char → Bool
  | 0, _ => true
  | _ + 1, [] => false
  | n + 1, c :: rest => p c && startsWithRun p n rest

/-- Some `n` neighbouring characters all satisfy `p`. -/
def hasRun (p : Char → Bool) (n : Nat) : List Char → Bool
  | [] => n == 0
  | c :: rest => startsWithRun p n (c :: rest) || hasRun p n rest

/-- A run of characters that satisfy `p` goes past the limit.  The run is counted
on from the characters before the text, and starts again after any other
character. -/
def runsPast (p : Char → Bool) (limit : Nat) : (run : Nat) → List Char → Bool
  | _, [] => false
  | run, c :: rest =>
    if p c then
      if limit < run + 1 then true else runsPast p limit (run + 1) rest
    else runsPast p limit 0 rest

end RecurringBilling.Text
