import RecurringBilling.Proofs.Plan.Terms
import RecurringBilling.Proofs.Text.NameGrammar

/-!
# Which texts are plan names

A plan name has 2 to 100 characters, starts and ends with a letter or a digit, and may hold up to
two hyphens, underscores and periods side by side.  Every other text is refused for the first thing
that keeps it from being one.
-/

namespace RecurringBilling

open RecurringBilling.Text

namespace PlanName

/-- The grammar of plan names. -/
def grammar : NameGrammar where
  shortest := 2
  longest := 100
  Start := IsLetterOrDigit
  marks := ['-', '_', '.']
  crowd := 3

theorem grammar_isCheckedBy : grammar.IsCheckedBy rules where
  shortest := rfl
  longest := rfl
  start := fun c => by simp only [rules, grammar, isLetterOrDigit_eq_true_iff]
  mark := fun c => by simp [rules, isMark, grammar, or_assoc]
  crowd := rfl

/-- Exactly the names of the grammar are read, whatever blanks stand around them, and kept as they
are; what a refusal tells is the first thing that keeps the text from being a plan name. -/
theorem plan_names_follow_grammar (raw : String) :
    ((∃ name, ofText raw = .ok name ∧ name.text.toList = trim raw.toList) ↔
        grammar.Admits (trim raw.toList)) ∧
      ∀ flaw, ofText raw = .error flaw ↔ grammar.BreaksFirst (trim raw.toList) flaw :=
  grammar_isCheckedBy.reads reader (fun _ => rfl) raw

example : flaw? "Plan-_A".toList = none ∧ flaw? "Plan-_.A".toList = some .crowdedMarks ∧
    flaw? "4K".toList = none := by
  decide +kernel

end PlanName

end RecurringBilling
