import Mathlib.Data.List.TakeWhile
import RecurringBilling.Json.Token
import RecurringBilling.Json.Writer
import RecurringBilling.Proofs.Text.Decimal

/-!
# Written numbers and strings are one token each

The numeral of an integer of 64 bits is read as that integer, and the literal of a string as
that string, whatever characters it has.  Words and numerals end where a character follows
that cannot be part of them, and literals with their closing quote, so what stands behind
them is split into tokens on its own.
-/

namespace RecurringBilling.Json

open RecurringBilling.Text

/-! ## Integers -/

namespace Numeral

theorem digitsValue_eq (digits : List Char) :
    digitsValue digits = Nat.ofDigitChars 10 digits 0 :=
  Decimal.foldl_digits digits

theorem spanDigits_write (n : Nat) : spanDigits (Decimal.write n) = (Decimal.write n, []) := by
  have hdigits : ∀ c ∈ Decimal.write n, c.isDigit = true := fun c => Decimal.isDigit_of_mem_write
  rw [spanDigits, List.takeWhile_eq_self_iff.mpr hdigits, List.dropWhile_eq_nil_iff.mpr hdigits]

/-- The parts of a written natural number: its digits, and nothing behind them. -/
theorem whole?_write (n : Nat) : whole? (Decimal.write n) = some (Decimal.write n, []) := by
  unfold whole?
  rw [spanDigits_write]
  split
  · next hnil =>
    exact absurd (congrArg Prod.fst hnil) (Decimal.write_ne_nil n)
  · next c rest _ hzero =>
    -- a leading zero with a digit behind it is not written
    have hwrite : Decimal.write n = '0' :: c :: rest := congrArg Prod.fst hzero
    have hn : n = 0 := by
      by_contra hne
      exact Decimal.head?_write_ne_zero hne (by rw [hwrite, List.head?_cons])
    subst hn
    cases hwrite
  · next hparts =>
    rw [← hparts]

theorem minus_write (n : Nat) : minus (Decimal.write n) = (false, Decimal.write n) := by
  unfold minus
  split
  · next rest hwrite =>
    have hmem : '-' ∈ Decimal.write n := hwrite ▸ List.mem_cons_self
    have hdigit := Decimal.isDigit_of_mem_write hmem
    exact absurd hdigit (by decide)
  · rfl

/-- The parts of the numeral that an integer is written as. -/
def ofInt (z : Int) : Numeral :=
  { negative := z < 0, whole := Decimal.write z.natAbs, fraction := [], exponent := none }

theorem ofChars?_writeInt (z : Int) : ofChars? (Decimal.writeInt z) = some (ofInt z) := by
  have hparts : ∀ negative s, minus s = (negative, Decimal.write z.natAbs) →
      ofChars? s = some { ofInt z with negative } := by
    intro negative s hminus
    simp [ofChars?, ofInt, hminus, whole?_write, fraction?, exponent?]
  unfold Decimal.writeInt
  by_cases hz : z < 0
  · rw [if_pos hz, hparts true _ rfl, ofInt, decide_eq_true hz]
  · rw [if_neg hz, hparts false _ (minus_write _), ofInt, decide_eq_false hz]

/-- The numeral of an integer of 64 bits is read as that integer. -/
theorem value?_writeInt {z : Int} (hmin : minInteger ≤ z) (hmax : z ≤ maxInteger) :
    value? (Decimal.writeInt z) = some (.integer z) := by
  have hvalue : digitsValue (Decimal.write z.natAbs) = z.natAbs := by
    rw [digitsValue_eq, Decimal.write, Nat.ofDigitChars_ten_toDigits]
  have hinteger : (ofInt z).integer? = some z := by
    unfold integer? ofInt
    simp only [hvalue]
    by_cases hz : z < 0
    · have habs : -(z.natAbs : Int) = z := by omega
      have hne : (z.natAbs : Int) ≠ 0 := by omega
      generalize (z.natAbs : Int) = m at habs hne
      simp [hz, habs, hne, hmin, hmax]
    · have habs : (z.natAbs : Int) = z := by omega
      generalize (z.natAbs : Int) = m at habs
      simp [hz, habs, hmin, hmax]
  rw [value?, ofChars?_writeInt, Option.map_some, hinteger]

end Numeral

namespace Token

/-! ## Words and numerals -/

/-- The characters that are left cannot go on with a word or a numeral. -/
def Delimited (rest : List (Option Char)) : Prop :=
  ∀ c ∈ rest.head?, ∃ d, c = some d ∧ isNumeralChar d = false ∧ d.isLower = false

theorem delimited_nil : Delimited [] := by simp [Delimited]

theorem delimited_cons {c : Char} (hnumeral : isNumeralChar c = false) (hword : c.isLower = false)
    (rest : List (Option Char)) : Delimited (some c :: rest) := by
  intro d hd
  exact ⟨c, (Option.some.inj hd).symm, hnumeral, hword⟩

/-- A kind of token that goes on as long as its characters come, and is read when another
character follows. -/
structure Run where
  pending : List Char → Pending
  admits : Char → Bool
  value? : List Char → Option Json
  step_of_admits : ∀ {c}, admits c = true → ∀ s,
    step? (pending s) (some c) = some ([], pending (c :: s))
  step_of_not_admits : ∀ {c}, admits c = false → ∀ s, step? (pending s) (some c)
    = (value? s.reverse).bind fun v => (start? c).map fun (ts, p) => (.scalar v :: ts, p)
  finish : ∀ s, finish? (pending s) = (value? s.reverse).map ([.scalar ·])
  admits_of_delimited : ∀ {c : Char}, isNumeralChar c = false → c.isLower = false → admits c = false

/-- Words are runs of lower letters. -/
def words : Run where
  pending := .word
  admits := Char.isLower
  value? := word?
  step_of_admits h s := by simp [step?, h]
  step_of_not_admits {c} h s := by
    cases hvalue : word? s.reverse <;> cases hstart : start? c <;> simp [step?, h, hvalue, hstart]
  finish s := rfl
  admits_of_delimited _ h := h

/-- Numerals are runs of digits and the other characters that a number is written with. -/
def numerals : Run where
  pending := .numeral
  admits := isNumeralChar
  value? := Numeral.value?
  step_of_admits h s := by simp [step?, h]
  step_of_not_admits {c} h s := by
    cases hvalue : Numeral.value? s.reverse <;> cases hstart : start? c <;>
      simp [step?, h, hvalue, hstart]
  finish s := rfl
  admits_of_delimited h _ := h

theorem splitFrom?_nil (pending : Pending) : splitFrom? pending [] = finish? pending := rfl

theorem splitFrom?_cons {pending next : Pending} {c : Option Char} {ts : List Token}
    (h : step? pending c = some (ts, next)) (rest : List (Option Char)) :
    splitFrom? pending (c :: rest) = (splitFrom? next rest).map (ts ++ ·) := by
  rw [splitFrom?, h]

/-- A character that completes nothing is only taken up. -/
theorem splitFrom?_cons_of_open {pending next : Pending} {c : Option Char}
    (h : step? pending c = some ([], next)) (rest : List (Option Char)) :
    splitFrom? pending (c :: rest) = splitFrom? next rest := by
  rw [splitFrom?_cons h]
  simp

namespace Run

variable (r : Run)

/-- A run takes up all of its characters. -/
theorem splitFrom?_append {t : List Char} (ht : ∀ c ∈ t, r.admits c = true) (s : List Char)
    (rest : List (Option Char)) :
    splitFrom? (r.pending s) (t.map some ++ rest) =
      splitFrom? (r.pending (t.reverse ++ s)) rest := by
  induction t generalizing s with
  | nil => rfl
  | cons c t ih =>
    rw [List.map_cons, List.cons_append,
      splitFrom?_cons_of_open (r.step_of_admits (ht c List.mem_cons_self) s),
      ih (fun d hd => ht d (List.mem_cons_of_mem c hd)), List.reverse_cons, List.append_assoc]
    rfl

/-- A run is over where another character follows, or none. -/
theorem splitFrom?_of_delimited {rest : List (Option Char)} (hrest : Delimited rest) {s : List Char}
    {v : Json} (hv : r.value? s.reverse = some v) :
    splitFrom? (r.pending s) rest = (splitFrom? .nothing rest).map (.scalar v :: ·) := by
  cases rest with
  | nil =>
    rw [splitFrom?_nil, splitFrom?_nil, r.finish, hv]
    rfl
  | cons c rest =>
    obtain ⟨d, rfl, hnumeral, hword⟩ := hrest c rfl
    have hstep := r.step_of_not_admits (r.admits_of_delimited hnumeral hword) s
    rw [hv, Option.bind_some] at hstep
    cases hstart : start? d with
    | none =>
      rw [hstart] at hstep
      rw [splitFrom?, hstep, splitFrom?, step?, hstart]
      rfl
    | some next =>
      rw [hstart] at hstep
      have hbegin : step? .nothing (some d) = some next := hstart
      rw [splitFrom?_cons hstep, splitFrom?_cons hbegin, Option.map_map]
      rfl

/-- The characters of a run are one token. -/
theorem splitFrom?_scalar {c : Char} {t : List Char} {v : Json} {rest : List (Option Char)}
    (hstart : start? c = some ([], r.pending [c])) (ht : ∀ d ∈ t, r.admits d = true)
    (hv : r.value? (c :: t) = some v) (hrest : Delimited rest) :
    splitFrom? .nothing ((c :: t).map some ++ rest)
      = (splitFrom? .nothing rest).map (.scalar v :: ·) := by
  have hbegin : step? .nothing (some c) = some ([], r.pending [c]) := hstart
  rw [List.map_cons, List.cons_append, splitFrom?_cons_of_open hbegin, r.splitFrom?_append ht]
  exact r.splitFrom?_of_delimited hrest (by simpa using hv)

end Run

theorem start?_of_isDigit {c : Char} (h : c.isDigit = true) :
    start? c = some ([], .numeral [c]) := by
  obtain ⟨hlow, hhigh⟩ := Char.isDigit_iff_toNat.mp h
  have hne : ∀ d : Char, d.isDigit = false → c ≠ d := by
    rintro d hd rfl
    rw [h] at hd
    cases hd
  simp [start?, isSpace, punctuation?, h, hne]

theorem isNumeralChar_of_isDigit {c : Char} (h : c.isDigit = true) : isNumeralChar c = true := by
  simp [isNumeralChar, h]

/-- The numeral of an integer of 64 bits is one token. -/
theorem splitFrom?_writeInt {z : Int} (hmin : minInteger ≤ z) (hmax : z ≤ maxInteger)
    {rest : List (Option Char)} (hrest : Delimited rest) :
    splitFrom? .nothing ((Decimal.writeInt z).map some ++ rest)
      = (splitFrom? .nothing rest).map (.scalar (.integer z) :: ·) := by
  have hvalue := Numeral.value?_writeInt hmin hmax
  have hdigits : ∀ c ∈ Decimal.write z.natAbs, c.isDigit = true :=
    fun c => Decimal.isDigit_of_mem_write
  unfold Decimal.writeInt at hvalue ⊢
  by_cases hz : z < 0
  · rw [if_pos hz] at hvalue ⊢
    exact numerals.splitFrom?_scalar rfl (fun c hc => isNumeralChar_of_isDigit (hdigits c hc))
      hvalue hrest
  · rw [if_neg hz] at hvalue ⊢
    cases hwrite : Decimal.write z.natAbs with
    | nil => exact absurd hwrite (Decimal.write_ne_nil _)
    | cons c t =>
      rw [hwrite] at hdigits hvalue
      exact numerals.splitFrom?_scalar (start?_of_isDigit (hdigits c List.mem_cons_self))
        (fun d hd => isNumeralChar_of_isDigit (hdigits d (List.mem_cons_of_mem c hd))) hvalue hrest

/-! ## Literals -/

theorem hexValue?_digitChar {n : Nat} (hn : n < 16) : hexValue? (Nat.digitChar n) = some n := by
  revert n
  decide

/-- A control that is written as the number of its unit. -/
theorem pieces?_unit {n : Nat} (hn : n < 0x20) (rest : List (Option Char)) :
    pieces? (some '\\' :: some 'u' :: some '0' :: some '0' :: some (Nat.digitChar (n / 16))
        :: some (Nat.digitChar (n % 16)) :: rest)
      = (pieces? rest).map (.unit n :: ·) := by
  have hzero : hexValue? '0' = some 0 := rfl
  have hunit : hexUnit? (some '0') (some '0') (some (Nat.digitChar (n / 16)))
      (some (Nat.digitChar (n % 16))) = some n := by
    simp only [hexUnit?, hzero, hexValue?_digitChar (show n / 16 < 16 by omega),
      hexValue?_digitChar (show n % 16 < 16 by omega), Option.some.injEq]
    omega
  rw [pieces?, hunit]

theorem pieces?_plain {c : Char} (hc : c ≠ '\\') (rest : List (Option Char)) :
    pieces? (some c :: rest) = (pieces? rest).map (.plain (some c) :: ·) := by
  rw [pieces?]
  all_goals simp [hc]

/-- A unit that is no half of a pair stands for its own character. -/
theorem spell_unit {n : Nat} (hn : n < 0xD800) (ps : List Piece) :
    spell (.unit n :: ps) = (spell ps).map (Char.ofNat n :: ·) := by
  have hhigh : isHigh n = false := by simp [isHigh]; omega
  have hlow : isLow n = false := by simp [isLow]; omega
  match ps with
  | [] => simp [spell, hhigh, hlow, Except.map]
  | .unit m :: ps => simp [spell, hhigh, hlow]
  | .plain c :: ps => simp [spell, hhigh, hlow]

/-- A character is written as an escape of one letter, as the number of its unit, or as
itself. -/
theorem escapeChar_cases (c : Char) :
    (∃ e, e ≠ 'u' ∧ shortEscape? e = some c ∧ escapeChar c = ['\\', e]) ∨
    (c.toNat < 0x20 ∧ escapeChar c = ['\\', 'u', '0', '0', Nat.digitChar (c.toNat / 16),
      Nat.digitChar (c.toNat % 16)]) ∨
    (c ≠ '"' ∧ c ≠ '\\' ∧ 0x20 ≤ c.toNat ∧ escapeChar c = [c]) := by
  by_cases hletter : c = '"' ∨ c = '\\' ∨ c = '\x08' ∨ c = '\x0c' ∨ c = '\n' ∨ c = '\r' ∨ c = '\t'
  · left
    rcases hletter with rfl | rfl | rfl | rfl | rfl | rfl | rfl
    · exact ⟨'"', by decide, rfl, rfl⟩
    · exact ⟨'\\', by decide, rfl, rfl⟩
    · exact ⟨'b', by decide, rfl, rfl⟩
    · exact ⟨'f', by decide, rfl, rfl⟩
    · exact ⟨'n', by decide, rfl, rfl⟩
    · exact ⟨'r', by decide, rfl, rfl⟩
    · exact ⟨'t', by decide, rfl, rfl⟩
  · right
    push Not at hletter
    by_cases hcontrol : c.toNat < 0x20
    · exact .inl ⟨hcontrol, by simp [escapeChar, hletter, hcontrol]⟩
    · exact .inr ⟨hletter.1, hletter.2.1, by omega, by simp [escapeChar, hletter, hcontrol]⟩

/-- What a character is written as is one piece of a literal, and spells that character. -/
theorem pieces?_escapeChar (c : Char) :
    ∃ piece, (∀ rest, pieces? ((escapeChar c).map some ++ rest) = (pieces? rest).map (piece :: ·)) ∧
      ∀ ps, spell (piece :: ps) = (spell ps).map (c :: ·) := by
  rcases escapeChar_cases c with
    ⟨e, hu, he, hescape⟩ | ⟨hcontrol, hescape⟩ | ⟨-, hslash, -, hescape⟩
  · refine ⟨.plain (some c), fun rest => ?_, fun ps => rfl⟩
    rw [hescape, List.map_cons, List.map_cons, List.map_nil, List.cons_append, List.cons_append,
      List.nil_append, pieces?, he]
    simp [hu]
  · refine ⟨.unit c.toNat, fun rest => ?_, fun ps => ?_⟩
    · rw [hescape]
      exact pieces?_unit hcontrol rest
    · rw [spell_unit (by omega), Char.ofNat_toNat]
  · refine ⟨.plain (some c), fun rest => ?_, fun ps => rfl⟩
    rw [hescape]
    exact pieces?_plain hslash rest

/-- The inside of a written literal spells the text that it was written for. -/
theorem literal?_escape (s : List Char) :
    literal? ((s.flatMap escapeChar).map some) = some (.literal (.ok (String.ofList s))) := by
  have hspell : ∃ ps, pieces? ((s.flatMap escapeChar).map some) = some ps ∧ spell ps = .ok s := by
    induction s with
    | nil => exact ⟨[], rfl, rfl⟩
    | cons c s ih =>
      obtain ⟨ps, hps, htext⟩ := ih
      obtain ⟨piece, hpiece, hc⟩ := pieces?_escapeChar c
      refine ⟨piece :: ps, ?_, ?_⟩
      · rw [List.flatMap_cons, List.map_append, hpiece, hps]
        rfl
      · rw [hc, htext]
        rfl
  obtain ⟨ps, hps, htext⟩ := hspell
  rw [literal?, hps, Option.map_some, htext]
  rfl

theorem step?_inside {c : Char} (hquote : c ≠ '"') (hslash : c ≠ '\\') (hcontrol : 0x20 ≤ c.toNat)
    (s : List (Option Char)) : step? (.inside s) (some c) = some ([], .inside (some c :: s)) := by
  simp [step?, hquote, hslash, Nat.not_lt.mpr hcontrol]

/-- Characters that need no escape are only taken up. -/
theorem splitFrom?_unescaped {t : List Char}
    (ht : ∀ c ∈ t, c ≠ '"' ∧ c ≠ '\\' ∧ 0x20 ≤ c.toNat) (s rest : List (Option Char)) :
    splitFrom? (.inside s) (t.map some ++ rest)
      = splitFrom? (.inside ((t.map some).reverse ++ s)) rest := by
  induction t generalizing s with
  | nil => rfl
  | cons c t ih =>
    obtain ⟨hquote, hslash, hcontrol⟩ := ht c List.mem_cons_self
    rw [List.map_cons, List.cons_append,
      splitFrom?_cons_of_open (step?_inside hquote hslash hcontrol s),
      ih fun d hd => ht d (List.mem_cons_of_mem c hd), List.reverse_cons, List.append_assoc]
    rfl

/-- A backslash takes up the character behind it, whichever this is. -/
theorem splitFrom?_escaped (e : Option Char) (s rest : List (Option Char)) :
    splitFrom? (.inside s) (some '\\' :: e :: rest)
      = splitFrom? (.inside (e :: some '\\' :: s)) rest := by
  have hslash : step? (.inside s) (some '\\') = some ([], .escaped (some '\\' :: s)) := rfl
  have hescape :
      step? (.escaped (some '\\' :: s)) e = some ([], .inside (e :: some '\\' :: s)) := rfl
  rw [splitFrom?_cons_of_open hslash, splitFrom?_cons_of_open hescape]

/-- What a character is written as neither ends a literal nor leaves an escape open. -/
theorem splitFrom?_escapeChar (c : Char) (s rest : List (Option Char)) :
    splitFrom? (.inside s) ((escapeChar c).map some ++ rest)
      = splitFrom? (.inside (((escapeChar c).map some).reverse ++ s)) rest := by
  rcases escapeChar_cases c with ⟨e, -, -, hescape⟩ | ⟨hcontrol, hescape⟩ |
    ⟨hquote, hslash, hcontrol, hescape⟩
  · rw [hescape]
    exact splitFrom?_escaped (some e) s rest
  · -- the four digits stand for themselves
    have hdigit : ∀ n < 16, Nat.digitChar n ≠ '"' ∧ Nat.digitChar n ≠ '\\' ∧
        0x20 ≤ (Nat.digitChar n).toNat := by decide
    have hdigits : ∀ d ∈ ['0', '0', Nat.digitChar (c.toNat / 16), Nat.digitChar (c.toNat % 16)],
        d ≠ '"' ∧ d ≠ '\\' ∧ 0x20 ≤ d.toNat := by
      intro d hd
      simp only [List.mem_cons, List.not_mem_nil, or_false] at hd
      rcases hd with rfl | rfl | rfl | rfl
      · exact hdigit 0 (by decide)
      · exact hdigit 0 (by decide)
      · exact hdigit _ (by omega)
      · exact hdigit _ (by omega)
    rw [hescape]
    exact (splitFrom?_escaped (some 'u') s _).trans (splitFrom?_unescaped hdigits _ rest)
  · rw [hescape]
    exact splitFrom?_cons_of_open (step?_inside hquote hslash hcontrol s) rest

theorem splitFrom?_inside (t : List Char) (s rest : List (Option Char)) :
    splitFrom? (.inside s) ((t.flatMap escapeChar).map some ++ rest)
      = splitFrom? (.inside (((t.flatMap escapeChar).map some).reverse ++ s)) rest := by
  induction t generalizing s with
  | nil => rfl
  | cons c t ih =>
    rw [List.flatMap_cons, List.map_append, List.append_assoc, splitFrom?_escapeChar, ih,
      List.reverse_append, List.append_assoc]

/-- The literal of a string is one token. -/
theorem splitFrom?_writeText (s : String) (rest : List (Option Char)) :
    splitFrom? .nothing ((writeText s).map some ++ rest)
      = (splitFrom? .nothing rest).map (.literal (.ok s) :: ·) := by
  have hbegin : step? .nothing (some '"') = some ([], .inside []) := rfl
  have hend : step? (.inside ((s.toList.flatMap escapeChar).map some).reverse) (some '"')
      = some ([.literal (.ok s)], .nothing) := by
    simp only [step?, List.reverse_reverse, literal?_escape, String.ofList_toList, if_true]
  rw [writeText, List.cons_append, List.map_cons, List.map_append, List.cons_append,
    splitFrom?_cons_of_open hbegin, List.append_assoc, splitFrom?_inside, List.append_nil,
    List.map_cons, List.cons_append, splitFrom?_cons hend]
  rfl

end Token

end RecurringBilling.Json
