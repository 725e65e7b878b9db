import RecurringBilling.Proofs.Plan.Terms
import RecurringBilling.Proofs.Text.Decimal
import RecurringBilling.Proofs.Text.Classes
import RecurringBilling.Proofs.Text.Windows

/-!
# What descriptions show

A description is meant to show as it is written: apart from line feeds and tabs it has no control
characters, of the blanks it has only plain spaces, and there is nothing in it that is for private
use or that only formats the text around it.  Of these last two kinds the table of invisible code
points lists a part.  Every description keeps to the other rules, and it is printable exactly if it
has none of the code points that the table overlooks.
-/

namespace RecurringBilling

open RecurringBilling.Text

namespace Description

/-! ## Kinds of code points -/

/-- Code points for private use. -/
def privateUse : List Span := [⟨0xE000, 0xF8FF⟩, ⟨0xF0000, 0xFFFFD⟩, ⟨0x100000, 0x10FFFD⟩]

/-- Format characters, which are those of the category `Cf`. -/
def formatting : List Span :=
  [⟨0xAD, 0xAD⟩, ⟨0x600, 0x605⟩, ⟨0x61C, 0x61C⟩, ⟨0x6DD, 0x6DD⟩, ⟨0x70F, 0x70F⟩, ⟨0x890, 0x891⟩,
    ⟨0x8E2, 0x8E2⟩, ⟨0x180E, 0x180E⟩, ⟨0x200B, 0x200F⟩, ⟨0x202A, 0x202E⟩, ⟨0x2060, 0x2064⟩,
    ⟨0x2066, 0x206F⟩, ⟨0xFEFF, 0xFEFF⟩, ⟨0xFFF9, 0xFFFB⟩, ⟨0x110BD, 0x110BD⟩, ⟨0x110CD, 0x110CD⟩,
    ⟨0x13430, 0x1343F⟩, ⟨0x1BCA0, 0x1BCA3⟩, ⟨0x1D173, 0x1D17A⟩, ⟨0xE0001, 0xE0001⟩,
    ⟨0xE0020, 0xE007F⟩]

/-- Format characters and code points for private use that are not in the table of invisible ones:
those that stand before or after digits and syllables, the controls of hieroglyphs, shorthand and
music, the tags, and the two last planes. -/
def overlooked : List Span :=
  [⟨0x600, 0x605⟩, ⟨0x6DD, 0x6DD⟩, ⟨0x70F, 0x70F⟩, ⟨0x890, 0x891⟩, ⟨0x8E2, 0x8E2⟩,
    ⟨0x110BD, 0x110BD⟩, ⟨0x110CD, 0x110CD⟩, ⟨0x13430, 0x1343F⟩, ⟨0x1BCA0, 0x1BCA3⟩,
    ⟨0x1D173, 0x1D17A⟩, ⟨0xE0001, 0xE0001⟩, ⟨0xE0020, 0xE007F⟩, ⟨0xF0000, 0xFFFFD⟩,
    ⟨0x100000, 0x10FFFD⟩]

theorem privateUse_formatting_within :
    Within (privateUse ++ formatting) (invisible.toList ++ overlooked) := by
  decide +kernel

theorem overlooked_within : Within overlooked (privateUse ++ formatting) := by
  decide +kernel

theorem overlooked_apart :
    Apart overlooked (controls ++ whiteSpace.toList ++ invisible.toList) := by
  decide +kernel

theorem invisible_search_eq_true_iff {c : Char} :
    invisible.search c.toNat = true ↔ Covers invisible.toList c.toNat :=
  SpanTable.search_eq_true_iff (by decide)

/-! ## Texts that lack a kind -/

/-- The text has no characters of the kind but those that are spared. -/
def Lacks (kind : List Span) (spared t : List Char) : Prop :=
  ∀ c ∈ t, c ∉ spared → ¬Covers kind c.toNat

instance (kind : List Span) (spared t : List Char) : Decidable (Lacks kind spared t) :=
  decidable_of_iff ((t.all fun c => decide (c ∉ spared → ¬Covers kind c.toNat)) = true)
    (by simp only [List.all_eq_true, decide_eq_true_eq, Lacks])

/-- A text with the length, the spaces, the controls and the blanks of a description. -/
structure IsTidy (t : List Char) : Prop where
  length : t.length ≤ 1000
  spaces : ¬HasWindow (· = ' ') 3 t
  controls : Lacks controls ['\n', '\t'] t
  blanks : Lacks whiteSpace.toList [' ', '\n', '\t'] t

/-- A text that shows as it is written. -/
structure IsPrintable (t : List Char) : Prop extends IsTidy t where
  privateUse : Lacks privateUse [] t
  formatting : Lacks formatting [] t

/-- What is tidy and lacks the invisible is printable exactly if it lacks the overlooked. -/
theorem isPrintable_iff {t : List Char} (ht : IsTidy t) (hinvisible : Lacks invisible.toList [] t) :
    IsPrintable t ↔ Lacks overlooked [] t := by
  constructor
  · intro h c hc hspared hoverlooked
    rcases covers_append.mp (hoverlooked.of_within overlooked_within) with hprivate | hformat
    · exact h.privateUse c hc hspared hprivate
    · exact h.formatting c hc hspared hformat
  · intro h
    have hkept : ∀ c ∈ t, ¬Covers (privateUse ++ formatting) c.toNat := by
      intro c hc hmeant
      rcases covers_append.mp (hmeant.of_within privateUse_formatting_within) with hlisted | hmissed
      · exact hinvisible c hc List.not_mem_nil hlisted
      · exact h c hc List.not_mem_nil hmissed
    exact
      { toIsTidy := ht
        privateUse := fun c hc _ hprivate => hkept c hc (covers_append.mpr (.inl hprivate))
        formatting := fun c hc _ hformat => hkept c hc (covers_append.mpr (.inr hformat)) }

/-! ## What is accepted -/

/-- A character passes both checks exactly if it is of no kind from which it is not spared. -/
theorem passes_iff (c : Char) :
    ((isControl c && !isLayout c) = false ∧ (isPrintable c || isLayout c) = true) ↔
      (c ∉ ['\n', '\t'] → ¬Covers controls c.toNat) ∧
        (c ∉ [' ', '\n', '\t'] → ¬Covers whiteSpace.toList c.toNat) ∧
          (c ∉ [] → ¬Covers invisible.toList c.toNat) := by
  by_cases hspared : c ∈ [' ', '\n', '\t']
  · simp only [List.mem_cons, List.not_mem_nil, or_false] at hspared
    rcases hspared with rfl | rfl | rfl <;> decide
  · rw [← isControl_eq_true_iff, ← isBlank_eq_true_iff, ← invisible_search_eq_true_iff]
    simp only [List.mem_cons, List.not_mem_nil, or_false, not_or] at hspared
    obtain ⟨hspace, hfeed, htab⟩ := hspared
    cases hcontrol : isControl c <;> simp [isLayout, isPrintable, hcontrol, hspace, hfeed, htab]

theorem isTidy_nil : IsTidy [] where
  length := Nat.zero_le 1000
  spaces := by simp [HasWindow]
  controls := nofun
  blanks := nofun

/-- No rule is broken exactly by the tidy texts that lack the invisible. -/
theorem flaw?_eq_none_iff {t : List Char} :
    flaw? t = none ↔ IsTidy t ∧ Lacks invisible.toList [] t := by
  cases t with
  | nil => exact iff_of_true rfl ⟨isTidy_nil, nofun⟩
  | cons first rest =>
    rw [flaw?, if_neg (by simp), ite_some_eq_none_iff, ite_some_eq_none_iff, ite_some_eq_none_iff,
      ite_some_eq_none_iff, hasRun_eq_char_iff]
    generalize first :: rest = t
    simp only [Bool.not_eq_true, List.any_eq_false, Bool.not_eq_false', List.all_eq_true]
    constructor
    · rintro ⟨hlength, hcontrols, hshown, hcrowd, -⟩
      have hpass := fun c hc => (passes_iff c).mp ⟨hcontrols c hc, hshown c hc⟩
      exact
        ⟨{ length := Nat.not_lt.mp hlength
           spaces := hcrowd
           controls := fun c hc => (hpass c hc).1
           blanks := fun c hc => (hpass c hc).2.1 },
          fun c hc => (hpass c hc).2.2⟩
    · rintro ⟨htidy, hinvisible⟩
      have hpass := fun c hc =>
        (passes_iff c).mpr ⟨htidy.controls c hc, htidy.blanks c hc, hinvisible c hc⟩
      exact ⟨Nat.not_lt.mpr htidy.length, fun c hc => (hpass c hc).1, fun c hc => (hpass c hc).2,
        htidy.spaces, trivial⟩

theorem exists_ofText_iff {raw : String} :
    (∃ d, ofText raw = .ok d) ↔
      IsTidy (trim raw.toList) ∧ Lacks invisible.toList [] (trim raw.toList) :=
  reader.exists_ofText_iff.trans flaw?_eq_none_iff

/-- Exactly the tidy texts that lack the invisible are read, whatever blanks stand around them, and
kept as they are.  A description is printable exactly if it lacks the overlooked. -/
theorem descriptions_printable_iff (raw : String) :
    ((∃ d, ofText raw = .ok d) ↔
        IsTidy (trim raw.toList) ∧ Lacks invisible.toList [] (trim raw.toList)) ∧
      ∀ d, ofText raw = .ok d →
        d.text.toList = trim raw.toList ∧ IsTidy d.text.toList ∧
          (IsPrintable d.text.toList ↔ Lacks overlooked [] d.text.toList) := by
  refine ⟨exists_ofText_iff, fun d hd => ?_⟩
  obtain ⟨htidy, hinvisible⟩ := flaw?_eq_none_iff.mp d.accepted.2
  exact ⟨reader.toList_text_of_ofText hd, htidy, isPrintable_iff htidy hinvisible⟩

/-- Line feeds, tabs and the signs of any script may stand in what is printable. -/
theorem two_lines_are_printable :
    ∃ d, ofText " Films • séries,\n\tin 4K " = .ok d ∧ IsPrintable d.text.toList := by
  have hread : ofText " Films • séries,\n\tin 4K " =
      .ok ⟨"Films • séries,\n\tin 4K", by decide +kernel⟩ := by
    rw [ofText_eq_ok_iff]
    decide +kernel
  obtain ⟨-, -, hprintable⟩ := (descriptions_printable_iff _).2 _ hread
  exact ⟨_, hread, hprintable.mpr (by decide +kernel)⟩

/-- Nothing else stops the overlooked: any text of them that is not too long is read. -/
theorem ofText_of_overlooked {t : List Char} (hne : t ≠ []) (hlength : t.length ≤ 1000)
    (hall : ∀ c ∈ t, Covers overlooked c.toNat) :
    ∃ d, ofText (String.ofList t) = .ok d ∧ d.text.toList = t ∧ ¬IsPrintable d.text.toList := by
  have hclear : ∀ c ∈ t, (¬Covers controls c.toNat ∧ ¬Covers whiteSpace.toList c.toNat) ∧
      ¬Covers invisible.toList c.toNat := by
    intro c hc
    simpa only [covers_append, not_or] using (hall c hc).not_of_apart overlooked_apart
  have htrim : trim t = t := trim_of_forall_not_blank fun c hc => by
    simpa only [← isBlank_eq_true_iff, Bool.not_eq_true] using (hclear c hc).1.2
  have htidy : IsTidy t :=
    { length := hlength
      spaces := by
        rintro ⟨w, hw, hcount, hspaces⟩
        obtain ⟨c, rest, rfl⟩ := List.exists_cons_of_length_eq_add_one hcount
        obtain rfl := hspaces c List.mem_cons_self
        exact (hclear ' ' (hw.subset List.mem_cons_self)).1.2 (by decide)
      controls := fun c hc _ => (hclear c hc).1.1
      blanks := fun c hc _ => (hclear c hc).1.2 }
  have hinvisible : Lacks invisible.toList [] t := fun c hc _ => (hclear c hc).2
  obtain ⟨d, hd⟩ : ∃ d, ofText (String.ofList t) = .ok d := by
    rw [exists_ofText_iff, String.toList_ofList, htrim]
    exact ⟨htidy, hinvisible⟩
  have htext : d.text.toList = trim (String.ofList t).toList := reader.toList_text_of_ofText hd
  rw [String.toList_ofList, htrim] at htext
  refine ⟨d, hd, htext, fun hprintable => ?_⟩
  rw [htext, isPrintable_iff htidy hinvisible] at hprintable
  obtain ⟨c, hc⟩ := List.exists_mem_of_ne_nil t hne
  exact hprintable c hc List.not_mem_nil (hall c hc)

/-- A number sign that stands before Arabic digits, a language tag and a character for private use
are a description, and none of them is printable. -/
theorem overlooked_text_is_read :
    ∃ d, ofText (String.ofList [Char.ofNat 0x600, Char.ofNat 0xE0001, Char.ofNat 0xF0000]) = .ok d ∧
      ¬IsPrintable d.text.toList := by
  have hall : ∀ c ∈ [Char.ofNat 0x600, Char.ofNat 0xE0001, Char.ofNat 0xF0000],
      Covers overlooked c.toNat := by
    refine List.forall_mem_cons.mpr ⟨by decide, List.forall_mem_cons.mpr ⟨by decide, ?_⟩⟩
    exact List.forall_mem_singleton.mpr (by decide)
  obtain ⟨d, hd, -, hprintable⟩ := ofText_of_overlooked (List.cons_ne_nil _ _) (by decide) hall
  exact ⟨d, hd, hprintable⟩

end Description

end RecurringBilling
