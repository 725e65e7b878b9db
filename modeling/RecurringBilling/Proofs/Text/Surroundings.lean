import RecurringBilling.Proofs.Identity.PersonNames
import RecurringBilling.Proofs.Identity.Spelling
import RecurringBilling.Proofs.Plan.CurrencyCodes

/-!
# Blanks around a text

Trimming takes away whatever blanks stand around a text, so a reader of trimmed texts answers a
text in the same way with and without them.  What it has read it reads again as the same value.
Names of plans and persons, descriptions, currency codes and addresses are all read so.
-/

namespace RecurringBilling

namespace Text

/-- The text consists of blanks. -/
def IsBlankText (s : String) : Prop := ∀ c ∈ s.toList, isBlank c = true

instance (s : String) : Decidable (IsBlankText s) :=
  -- not by search, which may take all characters there are in turn
  List.decidableBAll (fun c => isBlank c = true) s.toList

/-! ## Trimming -/

section Trimming

variable {a b : List Char}

theorem trimStart_append_of_blank (ha : ∀ c ∈ a, isBlank c = true) (s : List Char) :
    trimStart (a ++ s) = trimStart s :=
  List.dropWhile_append_of_pos ha

theorem trimEnd_append_of_blank (hb : ∀ c ∈ b, isBlank c = true) (s : List Char) :
    trimEnd (s ++ b) = trimEnd s := by
  have hreverse : ∀ c ∈ b.reverse, isBlank c = true := fun c hc => hb c (List.mem_reverse.mp hc)
  rw [trimEnd_eq_reverse, trimEnd_eq_reverse, List.reverse_append,
    trimStart_append_of_blank hreverse]

theorem trim_append_of_blank (hb : ∀ c ∈ b, isBlank c = true) (s : List Char) :
    trim (s ++ b) = trim s := by
  rw [trim, trim, trimStart, trimStart, List.dropWhile_append]
  split
  · next hblank =>
    -- the text was blank, so nothing is left of it with or without more blanks
    have hrest : (b ++ []).dropWhile isBlank = [] := List.dropWhile_append_of_pos hb
    rw [List.append_nil] at hrest
    rw [hrest, List.isEmpty_iff.mp hblank]
  · exact trimEnd_append_of_blank hb _

/-- Blanks on both sides leave nothing behind. -/
theorem trim_surrounded (ha : ∀ c ∈ a, isBlank c = true) (hb : ∀ c ∈ b, isBlank c = true)
    (s : List Char) : trim (a ++ s ++ b) = trim s := by
  rw [trim_append_of_blank hb, trim, trimStart_append_of_blank ha, trim]

end Trimming

/-! ## Readers -/

/-- One text is answered like another one, and what is read of it is what is left without blanks
around it, which is read as the same value again. -/
structure ReadAlike {φ α : Type} (ofText : String → Except φ α) (text : α → String)
    (raw other : String) : Prop where
  same : ofText other = ofText raw
  kept : ∀ a, ofText raw = .ok a → (text a).toList = trim raw.toList
  again : ∀ a, ofText raw = .ok a → ofText (text a) = .ok a

namespace Reader

variable {φ α : Type} (r : Reader φ α)

/-- A reader sees a text without the blanks around it. -/
theorem ofText_congr {raw other : String} (h : trim raw.toList = trim other.toList) :
    r.ofText raw = r.ofText other := by
  cases hother : r.ofText other with
  | error flaw => rwa [r.ofText_eq_error_iff, h, ← r.ofText_eq_error_iff]
  | ok a => rwa [r.ofText_eq_ok_iff, trimmed, h, ← trimmed, ← r.ofText_eq_ok_iff]

/-- The text of a value is read as that value. -/
theorem ofText_text (a : α) : r.ofText (r.text a) = .ok a :=
  r.ofText_eq_ok_iff.mpr (r.trimmed_text a).symm

theorem readAlike {before after : String} (hbefore : IsBlankText before)
    (hafter : IsBlankText after) (raw : String) :
    ReadAlike r.ofText r.text raw (before ++ raw ++ after) where
  same := by
    refine r.ofText_congr ?_
    rw [String.toList_append, String.toList_append]
    exact trim_surrounded hbefore hafter raw.toList
  kept := fun _ => r.toList_text_of_ofText
  again := fun a _ => r.ofText_text a

end Reader

end Text

open Text

/-- Blanks around a text do not count, whatever it is read as: the answer is the same value or the
same refusal without them.  The text of a value is the text that it was read from, trimmed, and
it is read as that value. -/
theorem surrounding_blanks_do_not_count (raw before after : String)
    (hbefore : IsBlankText before) (hafter : IsBlankText after) :
    ReadAlike PlanName.ofText PlanName.text raw (before ++ raw ++ after) ∧
      ReadAlike Description.ofText Description.text raw (before ++ raw ++ after) ∧
        ReadAlike Currency.ofText Currency.code raw (before ++ raw ++ after) ∧
          ReadAlike Email.ofText Email.text raw (before ++ raw ++ after) ∧
            ReadAlike PersonName.ofText PersonName.text raw (before ++ raw ++ after) :=
  ⟨PlanName.reader.readAlike hbefore hafter raw, Description.reader.readAlike hbefore hafter raw,
    Currency.reader.readAlike hbefore hafter raw, Email.reader.readAlike hbefore hafter raw,
    PersonName.reader.readAlike hbefore hafter raw⟩

/-- A refusal names the code without the tab and the wide space around it. -/
theorem padded_code_is_refused_alike :
    IsBlankText "\t" ∧ IsBlankText "\u3000" ∧
      Currency.ofText ("\t" ++ "usd" ++ "\u3000") = .error (.unknown "usd") := by
  have htab : IsBlankText "\t" := by decide
  have hwide : IsBlankText "\u3000" := by decide
  have hread := surrounding_blanks_do_not_count "usd" "\t" "\u3000" htab hwide
  exact ⟨htab, hwide, hread.2.2.1.same.trans (by decide +kernel)⟩

end RecurringBilling
