import RecurringBilling.Identity.PersonName
import RecurringBilling.Proofs.Text.NameGrammar

/-!
# Which texts are names of persons

The name of a person has 2 to 255 characters, starts with a letter, ends with a letter or a digit,
and may hold up to three hyphens, apostrophes and periods side by side.  Every other text is refused
for the first thing that keeps it from being one.
-/

namespace RecurringBilling

open RecurringBilling.Text

namespace PersonName

/-- The reader of names of persons. -/
def reader : Reader PersonName.Flaw PersonName where
  flaw? := flaw?
  text := text
  ofText := ofText
  text_inj := by
    rintro ⟨a, _⟩ ⟨b, _⟩ h
    cases h
    rfl
  accepted := accepted
  refuses := by
    intro raw flaw h
    unfold ofText
    split <;> simp_all
  reads := by
    intro raw h
    unfold ofText
    split
    · simp_all
    · exact ⟨_, rfl, rfl⟩

/-- The grammar of names of persons. -/
def grammar : NameGrammar where
  shortest := 2
  longest := 255
  Start := IsLetter
  marks := ['-', '\'', '.']
  crowd := 4

theorem grammar_isCheckedBy : grammar.IsCheckedBy rules where
  shortest := rfl
  longest := rfl
  start := fun c => by simp only [rules, grammar, isLetter_eq_true_iff]
  mark := fun c => by simp [rules, isMark, grammar, or_assoc]
  crowd := rfl

/-- Exactly the names of the grammar are read, whatever blanks stand around them, and kept as they
are; what a refusal tells is the first thing that keeps the text from being the name of a person. -/
theorem person_names_follow_grammar (raw : String) :
    ((∃ name, ofText raw = .ok name ∧ name.text.toList = trim raw.toList) ↔
        grammar.Admits (trim raw.toList)) ∧
      ∀ flaw, ofText raw = .error flaw ↔ grammar.BreaksFirst (trim raw.toList) flaw :=
  grammar_isCheckedBy.reads reader (fun _ => rfl) raw

example : flaw? "Ana.-.Lee".toList = none ∧ flaw? "Ana.-.-Lee".toList = some .crowdedMarks ∧
    flaw? "7 of Nine".toList = some .badStart := by
  decide +kernel

end PersonName

end RecurringBilling
