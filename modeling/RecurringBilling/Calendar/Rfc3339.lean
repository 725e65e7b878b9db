import RecurringBilling.Calendar.Instant
import RecurringBilling.Text.Blank
import RecurringBilling.Text.Decimal

/-!
# Instants as RFC 3339 texts

Writing gives years 0 to 9999 four digits and every other year a sign and at
least four; the fraction is left out when it is zero and otherwise takes three,
six or nine digits, the fewest that are exact.  A leap second is written as
second 60.

Reading is more liberal: numbers may be shorter, blanks may stand in front of
numbers, marks and the offset and at the end, a signed year may have any number
of digits, and digits after the ninth of a fraction are passed over.  The offset
is never optional.
-/

namespace RecurringBilling.Calendar

open RecurringBilling.Text

namespace Rfc3339

/-! ## Writing -/

/-- A year, signed unless it has four digits. -/
def writeYear (year : Int) : List Char :=
  if 0 ≤ year ∧ year ≤ 9999 then Decimal.writePadded 4 year.toNat
  else (if year < 0 then '-' else '+') :: Decimal.writePadded 4 year.natAbs

/-- The fraction of a second, in nanoseconds. -/
def writeFraction (nanos : Nat) : List Char :=
  if nanos = 0 then []
  else if nanos % 1000000 = 0 then '.' :: Decimal.writePadded 3 (nanos / 1000000)
  else if nanos % 1000 = 0 then '.' :: Decimal.writePadded 6 (nanos / 1000)
  else '.' :: Decimal.writePadded 9 nanos

/-- Date and time of an instant, without the offset. -/
def writeLocal (t : Instant) : List Char :=
  let d := t.date
  let second := t.secondOfDay.toNat
  let leap := decide (1000000000 ≤ t.nanos)
  writeYear d.year ++ '-' :: Decimal.writePadded 2 d.month
    ++ '-' :: Decimal.writePadded 2 d.day
    ++ 'T' :: Decimal.writePadded 2 (second / 3600)
    ++ ':' :: Decimal.writePadded 2 (second / 60 % 60)
    ++ ':' :: Decimal.writePadded 2 (if leap then second % 60 + 1 else second % 60)
    ++ writeFraction (if leap then t.nanos - 1000000000 else t.nanos)

/-! ## Reading -/

/-- A number of at most `width` digits, with blanks in front. -/
def number? (width : Nat) (s : List Char) : Option (Nat × List Char) :=
  let s := trimStart s
  let digits := (s.take width).takeWhile Char.isDigit
  if digits.isEmpty then none
  else some (digits.foldl (fun n c => n * 10 + (c.toNat - 48)) 0, s.drop digits.length)

/-- A year: four digits at most, or a sign and any number of digits. -/
def year? (s : List Char) : Option (Int × List Char) :=
  match trimStart s with
  | '-' :: c :: rest =>
    if c.isDigit then (number? (rest.length + 1) (c :: rest)).map fun r => (-(r.1 : Int), r.2)
    else none
  | '+' :: c :: rest =>
    if c.isDigit then (number? (rest.length + 1) (c :: rest)).map fun r => ((r.1 : Int), r.2)
    else none
  | rest => (number? 4 rest).map fun r => ((r.1 : Int), r.2)

/-- A mark, with blanks in front. -/
def mark? (mark : Char) (s : List Char) : Option (List Char) :=
  match trimStart s with
  | c :: rest => if c = mark then some rest else none
  | [] => none

/-- What parts date and time, without blanks in front. -/
def separator? : List Char → Option (List Char)
  | c :: rest => if c = 'T' || c = 't' || c = ' ' then some rest else none
  | [] => none

/-- The nanoseconds of a fraction, zero when there is none. -/
def fraction? : List Char → Option (Nat × List Char)
  | '.' :: rest =>
    let digits := rest.takeWhile Char.isDigit
    if digits.isEmpty then none
    else
      let kept := digits.take 9
      let value := kept.foldl (fun n c => n * 10 + (c.toNat - 48)) 0
      some (value * Nat.pow 10 (9 - kept.length), rest.dropWhile Char.isDigit)
  | s => some (0, s)

/-- The distance of a local time from UTC in seconds, from two digits of hours
and two of minutes; colons and blanks between them are passed over. -/
def distance? : List Char → Option (Nat × List Char)
  | a :: b :: rest =>
    if a.isDigit && b.isDigit then
      match rest.dropWhile fun c => c = ':' || isBlank c with
      | c :: d :: rest' =>
        if c.isDigit && d.isDigit && c.toNat < 54 then
          some (((a.toNat - 48) * 10 + (b.toNat - 48)) * 3600
            + ((c.toNat - 48) * 10 + (d.toNat - 48)) * 60, rest')
        else none
      | _ => none
    else none
  | _ => none

/-- The offset from UTC in seconds: `Z`, `UTC` in either case, or a sign and a
distance.  The typographic minus sign counts as one. -/
def offset? (s : List Char) : Option (Int × List Char) :=
  let s := trimStart s
  if (s.take 3).map Char.toUpper = ['U', 'T', 'C'] then some (0, s.drop 3)
  else
    match s with
    | [] => none
    | c :: rest =>
      if c = 'Z' || c = 'z' then some (0, rest)
      else if c = '+' then (distance? rest).map fun r => ((r.1 : Int), r.2)
      else if c = '-' || c = '\u2212' then (distance? rest).map fun r => (-(r.1 : Int), r.2)
      else none

/-- The instant of a local date and time at an offset.  Second 60 is a leap
second. -/
def assemble? (date : CivilDate) (hour minute second nanos : Nat) (offset : Int) :
    Option Instant :=
  if date.Exists ∧ hour < 24 ∧ minute < 60 ∧ second ≤ 60 ∧ offset.natAbs < 86400 then
    let leap := decide (second = 60)
    let secondOfDay : Int := hour * 3600 + minute * 60 + (if leap then 59 else second)
    Instant.ofParts? (date.dayNumber * 86400 + secondOfDay - offset)
      (if leap then nanos + 1000000000 else nanos)
  else none

/-- Reads an instant. -/
def read? (s : List Char) : Option Instant := do
  let (year, s) ← year? s
  let s ← mark? '-' s
  let (month, s) ← number? 2 s
  let s ← mark? '-' s
  let (day, s) ← number? 2 s
  let s ← separator? s
  let (hour, s) ← number? 2 s
  let s ← mark? ':' s
  let (minute, s) ← number? 2 s
  let s ← mark? ':' s
  let (second, s) ← number? 2 s
  let (nanos, s) ← fraction? s
  let (offset, s) ← offset? s
  if (trimStart s).isEmpty && minYear ≤ year && year ≤ maxYear then
    assemble? ⟨year, month, day⟩ hour minute second nanos offset
  else none

end Rfc3339

/-- The instant with the offset `Z`, as it is stored and exchanged. -/
def Instant.rfc3339 (t : Instant) : String := String.ofList (Rfc3339.writeLocal t ++ ['Z'])

/-- The instant with the offset `+00:00`, as it is shown. -/
def Instant.display (t : Instant) : String :=
  String.ofList (Rfc3339.writeLocal t ++ ['+', '0', '0', ':', '0', '0'])

end RecurringBilling.Calendar
