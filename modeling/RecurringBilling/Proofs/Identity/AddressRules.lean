import RecurringBilling.Proofs.Identity.AddressGrammar
import RecurringBilling.Proofs.Text.Classes
import RecurringBilling.Proofs.Text.Windows

/-!
# The rules of addresses in order

A text is looked at as a whole, then before and after the `@`, and then label by label.  What is
told about a text that is no address is the first rule that it breaks in this order; how many rules
there are depends on the number of labels.
-/

namespace RecurringBilling

open RecurringBilling.Text

namespace Email

/-! ## The rules -/

/-- The text starts or ends with the mark. -/
def HasAtEdge (mark : Char) (t : List Char) : Prop :=
  t.head? = some mark ∨ t.getLast? = some mark

/-- The rules of a local part, each with what breaks it. -/
def localRules (l : List Char) : List (Flaw × Prop) :=
  [(.localTooLong, 64 < byteLength l),
    (.localDoubledDot, HasWindow (· = '.') 2 l),
    (.localDotAtEdge, HasAtEdge '.' l),
    (.localForeignCharacter, ∃ c ∈ l, ¬(IsAtomChar c ∨ c = '.'))]

/-- The rules of a label before the last one. -/
def labelRules (label : List Char) : List (Flaw × Prop) :=
  [(.labelTooLong, 63 < byteLength label),
    (.labelHyphenAtEdge, HasAtEdge '-' label),
    (.labelForeignCharacter, ∃ c ∈ label, ¬IsLabelChar c)]

/-- The rules of the last label. -/
def topLevelRules (label : List Char) : List (Flaw × Prop) :=
  [(.labelTooLong, 63 < byteLength label),
    (.topLevelTooShort, label.length < 2),
    (.topLevelNotLetters, ∃ c ∈ label, ¬IsLetter c)]

/-- The rules of labels, those of each label before those of the next one. -/
def labelsRules : List (List Char) → List (Flaw × Prop)
  | [] => []
  | [top] => topLevelRules top
  | label :: rest => labelRules label ++ labelsRules rest

/-- The rules of a domain. -/
def domainRules (d : List Char) : List (Flaw × Prop) :=
  [(.domainTooLong, 255 < byteLength d),
    (.domainDotAtEdge, HasAtEdge '.' d),
    (.domainHyphenAtEdge, HasAtEdge '-' d),
    (.domainWithoutDot, '.' ∉ d),
    (.domainDoubledDot, HasWindow (· = '.') 2 d)] ++ labelsRules (splitAt '.' d)

/-- The rules of an address. -/
def rules (t : List Char) : List (Flaw × Prop) :=
  [(.missing, t = []),
    (.tooLong, 320 < byteLength t),
    (.atMissing, ¬∃ l d, l ≠ [] ∧ d ≠ [] ∧ '@' ∉ l ∧ t = l ++ '@' :: d),
    (.atRepeated, 1 < t.count '@')] ++ localRules (localPart t) ++ domainRules (afterAt t)

/-- The flaw is that of the first rule that is broken. -/
def Finds (order : List (Flaw × Prop)) (flaw : Option Flaw) : Prop :=
  ∃ found, FirstBroken Prod.snd order found ∧ found.map Prod.fst = flaw

namespace Finds

variable {order : List (Flaw × Prop)} {flaw : Option Flaw}

theorem none : Finds [] .none := ⟨.none, .none, rfl⟩

/-- One more check in front of the others. -/
theorem ite {first : Flaw} {P : Prop} {broken : Prop} [Decidable broken] (hfirst : broken ↔ P)
    (h : Finds order flaw) :
    Finds ((first, P) :: order) (if broken then some first else flaw) := by
  obtain ⟨found, hfound, rfl⟩ := h
  have hchecks : FirstBroken Prod.snd ((first, P) :: order)
      (if broken then some (first, P) else found) := hfound.ite hfirst
  refine ⟨_, hchecks, ?_⟩
  split <;> rfl

/-- More checks behind the others. -/
theorem append {others : List (Flaw × Prop)} {next : Option Flaw} (h : Finds order flaw)
    (hothers : Finds others next) : Finds (order ++ others) (flaw.or next) := by
  obtain ⟨found, hfound, rfl⟩ := h
  obtain ⟨later, hlater, rfl⟩ := hothers
  refine ⟨_, hfound.append hlater, ?_⟩
  cases found <;> rfl

theorem unique {other : Option Flaw} (h : Finds order flaw) (hother : Finds order other) :
    flaw = other := by
  obtain ⟨found, hfound, rfl⟩ := h
  obtain ⟨found', hfound', rfl⟩ := hother
  rw [hfound.unique hfound']

end Finds

/-! ## What the checks find -/

theorem hasAtEdge_eq_true_iff {mark : Char} {t : List Char} :
    hasAtEdge mark t = true ↔ HasAtEdge mark t := by
  simp [hasAtEdge, HasAtEdge]

theorem finds_localFlaw? (l : List Char) : Finds (localRules l) (localFlaw? l) :=
  .ite Iff.rfl <| .ite hasRun_eq_char_iff <| .ite hasAtEdge_eq_true_iff <|
    .ite (not_all_eq_true_iff (fun _ => isLocalChar_iff) l) .none

theorem finds_labelFlaw? (label : List Char) : Finds (labelRules label) (labelFlaw? label) :=
  .ite Iff.rfl <| .ite hasAtEdge_eq_true_iff <|
    .ite (not_all_eq_true_iff (fun _ => isLabelChar_iff) label) .none

theorem finds_topLevelFlaw? (label : List Char) :
    Finds (topLevelRules label) (topLevelFlaw? label) :=
  .ite Iff.rfl <| .ite Iff.rfl <| .ite (not_all_eq_true_iff isLetter_eq_true_iff label) .none

theorem finds_labelsFlaw? (labels : List (List Char)) :
    Finds (labelsRules labels) (labelsFlaw? labels) := by
  induction labels with
  | nil => exact .none
  | cons label rest ih =>
    cases rest with
    | nil => exact finds_topLevelFlaw? label
    | cons next rest =>
      rw [labelsFlaw?_cons (List.cons_ne_nil next rest)]
      exact (finds_labelFlaw? label).append ih

theorem finds_domainFlaw? (d : List Char) : Finds (domainRules d) (domainFlaw? d) := by
  have hdot : (!d.contains '.') = true ↔ '.' ∉ d := by simp
  exact .ite Iff.rfl <| .ite hasAtEdge_eq_true_iff <| .ite hasAtEdge_eq_true_iff <|
    .ite hdot <| .ite hasRun_eq_char_iff <| finds_labelsFlaw? (splitAt '.' d)

/-- Nothing stands before or after the first `@` if there is no `@` inside the text. -/
theorem isEmpty_parts_iff {t : List Char} :
    ((localPart t).isEmpty || (afterAt t).isEmpty) = true ↔
      ¬∃ l d, l ≠ [] ∧ d ≠ [] ∧ '@' ∉ l ∧ t = l ++ '@' :: d := by
  rw [Bool.or_eq_true, List.isEmpty_iff, List.isEmpty_iff]
  constructor
  · rintro hempty ⟨l, d, hl, hd, hat, rfl⟩
    rw [localPart_append_at hat, afterAt_append_at hat] at hempty
    exact hempty.elim hl hd
  · intro hnone
    by_contra hparts
    obtain ⟨hl, hd⟩ := not_or.mp hparts
    exact hnone ⟨_, _, hl, hd, at_not_mem_localPart t, (localPart_append_afterAt hd).symm⟩

/-- An `@` after the first one is one more. -/
theorem contains_afterAt_iff {t : List Char} :
    (afterAt t).contains '@' = true ↔ 1 < t.count '@' := by
  by_cases hat : '@' ∈ t
  · have hcount := congrArg (List.count '@') (localPart_append_of_mem hat)
    rw [List.count_append, List.count_cons_self,
      List.count_eq_zero.mpr (at_not_mem_localPart t)] at hcount
    rw [List.contains_iff_mem, ← List.count_pos_iff]
    omega
  · rw [afterAt_of_not_mem hat, List.count_eq_zero.mpr hat]
    exact iff_of_false nofun nofun

/-- What is told about a text is the first rule that it breaks. -/
theorem finds_flaw? (t : List Char) : Finds (rules t) (flaw? t) := by
  have hparts : Finds (localRules (localPart t) ++ domainRules (afterAt t))
      ((localFlaw? (localPart t)).or (domainFlaw? (afterAt t))) :=
    (finds_localFlaw? (localPart t)).append (finds_domainFlaw? (afterAt t))
  have hflaw : flaw? t =
      if t.isEmpty then some .missing
      else if 320 < byteLength t then some .tooLong
      else if (localPart t).isEmpty || (afterAt t).isEmpty then some .atMissing
      else if (afterAt t).contains '@' then some .atRepeated
      else (localFlaw? (localPart t)).or (domainFlaw? (afterAt t)) := by
    rw [flaw?]
    cases localFlaw? (localPart t) <;> rfl
  rw [hflaw, rules, List.append_assoc]
  exact .ite List.isEmpty_iff <| .ite Iff.rfl <| .ite isEmpty_parts_iff <|
    .ite contains_afterAt_iff hparts

end Email

end RecurringBilling
