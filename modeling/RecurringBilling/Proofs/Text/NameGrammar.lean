import RecurringBilling.Text.NameRules
import RecurringBilling.Proofs.Text.Classes
import RecurringBilling.Proofs.Text.Reader
import RecurringBilling.Proofs.Text.Windows

/-!
# The grammar of names

A name is a text of letters, decimal digits, spaces and marks with a first and a last character of
their own kinds, without two spaces and without too many marks side by side.  The rules of names
look at the text seven times, and count marks as they go; together they admit exactly the names
of the grammar, and what they tell about another text is the first thing in which it is no name.
-/

namespace RecurringBilling

open RecurringBilling.Text

/-- A kind of names.  So many marks side by side as `crowd` says are too many. -/
structure NameGrammar where
  shortest : Nat
  longest : Nat
  Start : Char → Prop
  marks : List Char
  crowd : Nat

/-- The rules of names in the order in which they are looked at. -/
def NameFlaw.inOrder : List NameFlaw :=
  [.missing, .tooShort, .tooLong, .badStart, .badEnd, .doubledSpace, .foreignCharacter,
    .crowdedMarks]

theorem NameFlaw.mem_inOrder (flaw : NameFlaw) : flaw ∈ inOrder := by
  cases flaw <;> decide

namespace NameGrammar

variable (g : NameGrammar)

/-- The characters of names. -/
def Allows (c : Char) : Prop := IsLetterOrDigit c ∨ c = ' ' ∨ c ∈ g.marks

/-- The text is a name. -/
structure Admits (t : List Char) : Prop where
  length : g.shortest ≤ t.length ∧ t.length ≤ g.longest
  start : ∃ c, t.head? = some c ∧ g.Start c
  finish : ∃ c, t.getLast? = some c ∧ IsLetterOrDigit c
  chars : ∀ c ∈ t, g.Allows c
  spaces : ¬HasWindow (· = ' ') 2 t
  marks : ¬HasWindow (· ∈ g.marks) g.crowd t

/-- What keeps the text from being a name. -/
def Breaks (t : List Char) : NameFlaw → Prop
  | .missing => t = []
  | .tooShort => t.length < g.shortest
  | .tooLong => g.longest < t.length
  | .badStart => ¬∃ c, t.head? = some c ∧ g.Start c
  | .badEnd => ¬∃ c, t.getLast? = some c ∧ IsLetterOrDigit c
  | .doubledSpace => HasWindow (· = ' ') 2 t
  | .foreignCharacter => ∃ c ∈ t, ¬g.Allows c
  | .crowdedMarks => HasWindow (· ∈ g.marks) g.crowd t

/-- The first thing that keeps the text from being a name. -/
def BreaksFirst (t : List Char) (flaw : NameFlaw) : Prop :=
  g.Breaks t flaw ∧ ∀ earlier ∈ NameFlaw.inOrder.takeWhile (· ≠ flaw), ¬g.Breaks t earlier

/-- Nothing keeps the names of the grammar from being names. -/
theorem admits_iff {t : List Char} : g.Admits t ↔ ∀ flaw ∈ NameFlaw.inOrder, ¬g.Breaks t flaw := by
  constructor
  · intro h flaw _
    cases flaw with
    | missing =>
      rintro rfl
      obtain ⟨c, hc, -⟩ := h.start
      cases hc
    | tooShort => exact Nat.not_lt.mpr h.length.1
    | tooLong => exact Nat.not_lt.mpr h.length.2
    | badStart => exact not_not_intro h.start
    | badEnd => exact not_not_intro h.finish
    | doubledSpace => exact h.spaces
    | foreignCharacter =>
      rintro ⟨c, hc, hforeign⟩
      exact hforeign (h.chars c hc)
    | crowdedMarks => exact h.marks
  · intro h
    have hkept := fun flaw => h flaw (NameFlaw.mem_inOrder flaw)
    exact
      { length := ⟨Nat.not_lt.mp (hkept .tooShort), Nat.not_lt.mp (hkept .tooLong)⟩
        start := Classical.not_not.mp (hkept .badStart)
        finish := Classical.not_not.mp (hkept .badEnd)
        chars := fun c hc => Classical.not_not.mp fun hforeign =>
          hkept .foreignCharacter ⟨c, hc, hforeign⟩
        spaces := hkept .doubledSpace
        marks := hkept .crowdedMarks }

/-- No such character stands at an edge of the text. -/
theorem not_any_iff {p : Char → Bool} {P : Char → Prop} (edge : Option Char)
    (hp : ∀ c, p c = true ↔ P c) : (!edge.any p) = true ↔ ¬∃ c, edge = some c ∧ P c := by
  cases edge with
  | none => simp
  | some c => simp [← hp]

/-- The rules are those of the grammar. -/
structure IsCheckedBy (rules : NameRules) : Prop where
  shortest : rules.shortest = g.shortest
  longest : rules.longest = g.longest
  start : ∀ c, rules.isStart c = true ↔ g.Start c
  mark : ∀ c, rules.isMark c = true ↔ c ∈ g.marks
  crowd : rules.marksInARow + 1 = g.crowd

namespace IsCheckedBy

variable {g} {rules : NameRules} (h : g.IsCheckedBy rules)

include h

theorem isAllowed_iff {c : Char} : rules.isAllowed c = true ↔ g.Allows c := by
  simp [NameRules.isAllowed, Allows, isLetterOrDigit_eq_true_iff, h.mark, or_assoc]

/-- The rules find the first thing that keeps a text from being a name. -/
theorem firstBroken (t : List Char) :
    FirstBroken (g.Breaks t) NameFlaw.inOrder (rules.flaw? t) := by
  have hcrowd : runsPast rules.isMark rules.marksInARow 0 t = true ↔
      HasWindow (· ∈ g.marks) g.crowd t := by
    rw [runsPast_eq_true_iff, h.crowd]
    exact HasWindow.congr h.mark
  have hforeign : (!t.all rules.isAllowed) = true ↔ ∃ c ∈ t, ¬g.Allows c :=
    not_all_eq_true_iff (fun _ => h.isAllowed_iff) t
  have hend := not_any_iff t.getLast? isLetterOrDigit_eq_true_iff
  have hstart := not_any_iff t.head? h.start
  unfold NameRules.flaw?
  rw [h.shortest, h.longest]
  exact .ite List.isEmpty_iff <| .ite Iff.rfl <| .ite Iff.rfl <| .ite hstart <| .ite hend <|
    .ite hasRun_eq_char_iff <| .ite hforeign <| .ite hcrowd .none

/-- A reader that goes by the rules of a grammar reads its names and no other texts, and keeps them
as they are; of another text it tells the first thing that keeps it from being a name. -/
theorem reads {α : Type} (r : Reader NameFlaw α) (hr : ∀ t, r.flaw? t = rules.flaw? t)
    (raw : String) :
    ((∃ a, r.ofText raw = .ok a ∧ (r.text a).toList = trim raw.toList) ↔
        g.Admits (trim raw.toList)) ∧
      ∀ flaw, r.ofText raw = .error flaw ↔ g.BreaksFirst (trim raw.toList) flaw := by
  have hfirst := h.firstBroken (trim raw.toList)
  constructor
  · rw [admits_iff, ← hfirst.eq_none_iff, ← hr, ← r.exists_ofText_iff]
    constructor
    · rintro ⟨a, ha, -⟩
      exact ⟨a, ha⟩
    · rintro ⟨a, ha⟩
      exact ⟨a, ha, r.toList_text_of_ofText ha⟩
  · intro flaw
    rw [r.ofText_eq_error_iff, hr, hfirst.eq_some_iff]
    exact and_iff_right flaw.mem_inOrder

end IsCheckedBy

end NameGrammar

end RecurringBilling
