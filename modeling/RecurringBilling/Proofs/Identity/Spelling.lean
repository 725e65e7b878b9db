import RecurringBilling.Identity.Email
import RecurringBilling.Proofs.Text.Reader

/-!
# Spellings of an address

The rules of addresses do not tell a capital ASCII letter from a small one, so whoever writes
an address with other capitals, or with blanks around it, writes an address of the same
mailbox.
-/

namespace RecurringBilling

open RecurringBilling.Text

namespace Text

/-! ## Characters -/

/-- A small ASCII letter counts like the capital one. -/
def IgnoresCase {β : Type} (f : Char → β) : Prop := ∀ c, f c.toLower = f c

theorem ignoresCase_of_capitals {β : Type} {f : Char → β}
    (hcapitals : ∀ n : Fin 26, f (Char.ofNat (n + 65)).toLower = f (Char.ofNat (n + 65))) :
    IgnoresCase f := by
  intro c
  by_cases hc : 65 ≤ c.toNat ∧ c.toNat ≤ 90
  · have hletter := hcapitals ⟨c.toNat - 65, by omega⟩
    simp only [Nat.sub_add_cancel hc.1, Char.ofNat_toNat] at hletter
    exact hletter
  · -- only capitals are folded
    have hsame : c.toLower = c := dif_neg fun h => hc ⟨h.1, h.2⟩
    rw [hsame]

theorem ignoresCase_utf8Size : IgnoresCase Char.utf8Size :=
  ignoresCase_of_capitals (by decide)

theorem ignoresCase_isLetter : IgnoresCase isLetter :=
  ignoresCase_of_capitals (by decide +kernel)

/-- The character is no ASCII letter. -/
def IsMark (mark : Char) : Prop := IgnoresCase fun c => decide (c = mark)

theorem isMark_dot : IsMark '.' := ignoresCase_of_capitals (by decide)

theorem isMark_hyphen : IsMark '-' := ignoresCase_of_capitals (by decide)

theorem isMark_at : IsMark '@' := ignoresCase_of_capitals (by decide)

theorem IsMark.toLower_eq_iff {mark : Char} (h : IsMark mark) (c : Char) :
    c.toLower = mark ↔ c = mark :=
  decide_eq_decide.mp (h c)

/-! ## Texts -/

/-- The text with its ASCII letters in lower case. -/
def fold (s : List Char) : List Char := s.map Char.toLower

theorem fold_cons (c : Char) (s : List Char) : fold (c :: s) = c.toLower :: fold s := rfl

@[simp]
theorem isEmpty_fold (s : List Char) : (fold s).isEmpty = s.isEmpty := List.isEmpty_map

@[simp]
theorem length_fold (s : List Char) : (fold s).length = s.length := List.length_map _

@[simp]
theorem byteLength_fold (s : List Char) : byteLength (fold s) = byteLength s := by
  induction s with
  | nil => rfl
  | cons c s ih => rw [fold_cons, byteLength_cons, byteLength_cons, ih, ignoresCase_utf8Size]

section Predicates

variable {p : Char → Bool}

theorem all_fold (hp : IgnoresCase p) (s : List Char) : (fold s).all p = s.all p := by
  rw [fold, List.all_map]
  congr 1
  exact funext hp

theorem startsWithRun_fold (hp : IgnoresCase p) (n : Nat) (s : List Char) :
    startsWithRun p n (fold s) = startsWithRun p n s := by
  induction s generalizing n with
  | nil => rfl
  | cons c s ih =>
    cases n with
    | zero => rfl
    | succ n => rw [fold_cons, startsWithRun, startsWithRun, hp, ih]

theorem hasRun_fold (hp : IgnoresCase p) (n : Nat) (s : List Char) :
    hasRun p n (fold s) = hasRun p n s := by
  induction s with
  | nil => rfl
  | cons c s ih =>
    have hstarts := startsWithRun_fold hp n (c :: s)
    rw [fold_cons] at hstarts
    rw [fold_cons, hasRun, hasRun, hstarts, ih]

end Predicates

section Marks

variable {mark : Char}

theorem splitAt_fold (hmark : IsMark mark) (s : List Char) :
    splitAt mark (fold s) = (splitAt mark s).map fold := by
  induction s with
  | nil => rfl
  | cons c s ih =>
    rw [fold_cons, splitAt, splitAt, ih]
    by_cases hc : c = mark
    · rw [if_pos hc, if_pos ((hmark.toLower_eq_iff c).mpr hc)]
      rfl
    · rw [if_neg hc, if_neg (mt (hmark.toLower_eq_iff c).mp hc)]
      cases splitAt mark s <;> rfl

theorem contains_fold (hmark : IsMark mark) (s : List Char) :
    (fold s).contains mark = s.contains mark := by
  rw [Bool.eq_iff_iff, List.contains_iff_mem, List.contains_iff_mem, fold, List.mem_map]
  constructor
  · rintro ⟨c, hc, heq⟩
    rwa [← (hmark.toLower_eq_iff c).mp heq]
  · intro h
    exact ⟨mark, h, (hmark.toLower_eq_iff mark).mpr rfl⟩

theorem map_toLower_beq (hmark : IsMark mark) (c? : Option Char) :
    (c?.map Char.toLower == some mark) = (c? == some mark) := by
  cases c? with
  | none => rfl
  | some c =>
    rw [Option.map_some, Bool.eq_iff_iff, beq_iff_eq, beq_iff_eq, Option.some_inj, Option.some_inj]
    exact hmark.toLower_eq_iff c

end Marks

end Text

namespace Email

/-! ## Rules -/

theorem ignoresCase_isLocalChar : IgnoresCase isLocalChar :=
  ignoresCase_of_capitals (by decide +kernel)

theorem ignoresCase_isLabelChar : IgnoresCase isLabelChar :=
  ignoresCase_of_capitals (by decide +kernel)

theorem hasAtEdge_fold {mark : Char} (hmark : IsMark mark) (s : List Char) :
    hasAtEdge mark (fold s) = hasAtEdge mark s := by
  rw [hasAtEdge, hasAtEdge, fold, List.head?_map, List.getLast?_map, map_toLower_beq hmark,
    map_toLower_beq hmark]

theorem localFlaw?_fold (s : List Char) : localFlaw? (fold s) = localFlaw? s := by
  rw [localFlaw?, localFlaw?, byteLength_fold, hasRun_fold isMark_dot, hasAtEdge_fold isMark_dot,
    all_fold ignoresCase_isLocalChar]

theorem topLevelFlaw?_fold (label : List Char) :
    topLevelFlaw? (fold label) = topLevelFlaw? label := by
  rw [topLevelFlaw?, topLevelFlaw?, byteLength_fold, length_fold, all_fold ignoresCase_isLetter]

theorem labelFlaw?_fold (label : List Char) : labelFlaw? (fold label) = labelFlaw? label := by
  rw [labelFlaw?, labelFlaw?, byteLength_fold, hasAtEdge_fold isMark_hyphen,
    all_fold ignoresCase_isLabelChar]

theorem labelsFlaw?_fold (labels : List (List Char)) :
    labelsFlaw? (labels.map fold) = labelsFlaw? labels := by
  induction labels with
  | nil => rfl
  | cons label rest ih =>
    cases rest with
    | nil => exact topLevelFlaw?_fold label
    | cons next rest =>
      simp only [List.map_cons, labelsFlaw?, labelFlaw?_fold] at ih ⊢
      rw [ih]

theorem domainFlaw?_fold (s : List Char) : domainFlaw? (fold s) = domainFlaw? s := by
  rw [domainFlaw?, domainFlaw?, byteLength_fold, hasAtEdge_fold isMark_dot,
    hasAtEdge_fold isMark_hyphen, contains_fold isMark_dot, hasRun_fold isMark_dot,
    splitAt_fold isMark_dot, labelsFlaw?_fold]

theorem localPart_fold (s : List Char) : localPart (fold s) = fold (localPart s) := by
  rw [localPart, localPart, fold, List.takeWhile_map, fold]
  congr 2
  funext c
  simp [isMark_at.toLower_eq_iff c]

theorem afterAt_fold (s : List Char) : afterAt (fold s) = fold (afterAt s) := by
  rw [afterAt, afterAt, fold, List.dropWhile_map, fold, List.map_drop]
  congr 3
  funext c
  simp [isMark_at.toLower_eq_iff c]

/-- The rules do not look at capitals. -/
theorem flaw?_fold (s : List Char) : flaw? (fold s) = flaw? s := by
  rw [flaw?, flaw?, localPart_fold, afterAt_fold, isEmpty_fold, isEmpty_fold, isEmpty_fold,
    byteLength_fold, contains_fold isMark_at, localFlaw?_fold, domainFlaw?_fold]

/-! ## Writing an address -/

/-- The text is the address, with any blanks around it and any ASCII letters in the other case. -/
def Spells (text : String) (e : Email) : Prop := fold (trim text.toList) = e.folded

instance (text : String) (e : Email) : Decidable (Spells text e) :=
  inferInstanceAs (Decidable (fold (trim text.toList) = e.folded))

theorem spells_text (e : Email) : Spells e.text e := by
  rw [Spells, e.accepted.1]
  rfl

/-- The reader of addresses. -/
def reader : Reader Flaw Email where
  flaw? := flaw?
  text := text
  ofText := ofText
  text_inj := by
    rintro ⟨a, _⟩ ⟨b, _⟩ h
    cases h
    rfl
  accepted := accepted
  refuses := by
    intro raw flaw h
    unfold ofText
    split <;> simp_all
  reads := by
    intro raw h
    unfold ofText
    split
    · simp_all
    · exact ⟨_, rfl, rfl⟩

theorem ofText_of_flaw?_eq_none {text : String} (h : flaw? (trim text.toList) = none) :
    ∃ e, ofText text = .ok e ∧ e.text.toList = trim text.toList := by
  obtain ⟨e, hread, htext⟩ := reader.reads h
  refine ⟨e, hread, ?_⟩
  rw [← toList_trimmed]
  exact congrArg String.toList htext

/-- Whatever spells an address is read as an address of its mailbox. -/
theorem ofText_of_spells {text : String} {e : Email} (h : Spells text e) :
    ∃ f, ofText text = .ok f ∧ f.SameMailbox e := by
  have hrules : flaw? (trim text.toList) = none := by
    rw [← flaw?_fold, h, folded]
    exact (flaw?_fold e.text.toList).trans e.accepted.2
  obtain ⟨f, hread, htext⟩ := ofText_of_flaw?_eq_none hrules
  refine ⟨f, hread, ?_⟩
  rw [SameMailbox, folded, htext]
  exact h

/-- What is read spells the addresses of its mailbox. -/
theorem spells_iff_of_ofText {text : String} {e : Email} (hread : ofText text = .ok e)
    (f : Email) : Spells text f ↔ f.SameMailbox e := by
  have htext : trim text.toList = e.text.toList := (reader.toList_text_of_ofText hread).symm
  rw [Spells, SameMailbox, htext]
  exact eq_comm

/-- An address is read as itself. -/
theorem ofText_text (e : Email) : ofText e.text = .ok e :=
  reader.ofText_eq_ok_iff.mpr (reader.trimmed_text e).symm

end Email

end RecurringBilling
