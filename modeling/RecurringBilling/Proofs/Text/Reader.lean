import RecurringBilling.Text.Blank

/-!
# Readers of trimmed texts

Names, descriptions and addresses are read in one way: blanks around a text do not count,
and what is left is either refused for the first rule that it breaks or kept as it is.
So a reader gives a value exactly when the text of the value is what is left, and the
text of a value is read as that value again.
-/

namespace RecurringBilling.Text

/-- The text without the blanks around it. -/
def trimmed (s : String) : String := String.ofList (trim s.toList)

theorem toList_trimmed (s : String) : (trimmed s).toList = trim s.toList :=
  String.toList_ofList

theorem trimmed_of_trim_eq {s : String} (h : trim s.toList = s.toList) : trimmed s = s := by
  rw [trimmed, h, String.ofList_toList]

/-- Rules are checked one after the other, and none is broken if none of them is. -/
theorem ite_some_eq_none_iff {φ : Type} {broken : Prop} [Decidable broken] {flaw : φ}
    {rest : Option φ} : (if broken then some flaw else rest) = none ↔ ¬broken ∧ rest = none := by
  split <;> simp_all

/-- A text without a character of the kind. -/
theorem not_any_eq_true_iff {p : Char → Bool} {P : Char → Prop} (hp : ∀ c, p c = true ↔ P c)
    (t : List Char) : (!t.any p) = true ↔ ¬∃ c ∈ t, P c := by
  simp [← hp]

/-- A text with a character of another kind. -/
theorem not_all_eq_true_iff {p : Char → Bool} {P : Char → Prop} (hp : ∀ c, p c = true ↔ P c)
    (t : List Char) : (!t.all p) = true ↔ ∃ c ∈ t, ¬P c := by
  simp [← hp]

/-! ## The first rule broken -/

/-- Rules are looked at one after the other, until one is found that is broken. -/
inductive FirstBroken {φ : Type} (Broken : φ → Prop) : List φ → Option φ → Prop
  | none : FirstBroken Broken [] none
  | broken {flaw : φ} {rest : List φ} (h : Broken flaw) :
      FirstBroken Broken (flaw :: rest) (some flaw)
  | kept {flaw : φ} {rest : List φ} {found : Option φ} (h : ¬Broken flaw)
      (hrest : FirstBroken Broken rest found) : FirstBroken Broken (flaw :: rest) found

namespace FirstBroken

variable {φ : Type} {Broken : φ → Prop} {order : List φ} {found : Option φ}

/-- One more check in front of the others. -/
theorem ite {broken : Prop} [Decidable broken] {flaw : φ} (hflaw : broken ↔ Broken flaw)
    (h : FirstBroken Broken order found) :
    FirstBroken Broken (flaw :: order) (if broken then some flaw else found) := by
  split
  · next hbroken => exact .broken (hflaw.mp hbroken)
  · next hkept => exact .kept (mt hflaw.mpr hkept) h

/-- More checks behind the others. -/
theorem append {others : List φ} {next : Option φ} (h : FirstBroken Broken order found)
    (hothers : FirstBroken Broken others next) :
    FirstBroken Broken (order ++ others) (found.or next) := by
  induction h with
  | none => exact hothers
  | broken hbroken => exact .broken hbroken
  | kept hkept _ ih => exact .kept hkept ih

/-- There is only one that is broken first. -/
theorem unique {other : Option φ} (h : FirstBroken Broken order found)
    (hother : FirstBroken Broken order other) : found = other := by
  induction h with
  | none =>
    cases hother
    rfl
  | broken hbroken =>
    cases hother with
    | broken _ => rfl
    | kept hkept _ => exact absurd hbroken hkept
  | kept hkept _ ih =>
    cases hother with
    | broken hbroken => exact absurd hbroken hkept
    | kept _ hrest => exact ih hrest

theorem eq_none_iff (h : FirstBroken Broken order found) :
    found = .none ↔ ∀ flaw ∈ order, ¬Broken flaw := by
  induction h with
  | none => simp
  | broken hbroken => simp [hbroken]
  | kept hkept _ ih => simp [hkept, ih]

/-- What is found is broken, and what is looked at before it is not. -/
theorem eq_some_iff [DecidableEq φ] (h : FirstBroken Broken order found) {flaw : φ} :
    found = some flaw ↔
      flaw ∈ order ∧ Broken flaw ∧ ∀ earlier ∈ order.takeWhile (· ≠ flaw), ¬Broken earlier := by
  induction h with
  | none => simp
  | @broken first rest hbroken =>
    by_cases hsame : first = flaw
    · subst hsame
      simp [hbroken]
    · simp [hsame, hbroken]
  | @kept first rest found hkept _ ih =>
    by_cases hsame : first = flaw
    · subst hsame
      simp [hkept, ih]
    · simp [hsame, Ne.symm hsame, hkept, ih]

end FirstBroken

/-! ## Readers -/

/-- A reader of values in `α`, which are trimmed texts that break no rule. -/
structure Reader (φ α : Type) where
  flaw? : List Char → Option φ
  text : α → String
  ofText : String → Except φ α
  text_inj : ∀ {a b : α}, text a = text b → a = b
  accepted : ∀ a : α, trim (text a).toList = (text a).toList ∧ flaw? (text a).toList = none
  refuses : ∀ {raw flaw}, flaw? (trim raw.toList) = some flaw → ofText raw = .error flaw
  reads : ∀ {raw}, flaw? (trim raw.toList) = none → ∃ a, ofText raw = .ok a ∧ text a = trimmed raw

namespace Reader

variable {φ α : Type} (r : Reader φ α) {raw : String} {a : α}

theorem trimmed_text (a : α) : trimmed (r.text a) = r.text a :=
  trimmed_of_trim_eq (r.accepted a).1

/-- A reader gives the value whose text is the one it reads, blanks around it left out. -/
theorem ofText_eq_ok_iff : r.ofText raw = .ok a ↔ r.text a = trimmed raw := by
  cases hflaw : r.flaw? (trim raw.toList) with
  | some flaw =>
    rw [r.refuses hflaw]
    constructor
    · intro h
      cases h
    · intro h
      -- the text of a value breaks no rule, so neither does a text that differs in blanks only
      have hnone := (r.accepted a).2
      rw [h, toList_trimmed, hflaw] at hnone
      cases hnone
  | none =>
    obtain ⟨b, hb, htext⟩ := r.reads hflaw
    rw [hb, Except.ok.injEq, ← htext]
    exact ⟨fun h => h ▸ rfl, fun h => r.text_inj h.symm⟩

/-- What is read is kept as it is. -/
theorem toList_text_of_ofText (h : r.ofText raw = .ok a) :
    (r.text a).toList = trim raw.toList := by
  rw [r.ofText_eq_ok_iff.mp h, toList_trimmed]

theorem ofText_eq_error_iff {flaw : φ} :
    r.ofText raw = .error flaw ↔ r.flaw? (trim raw.toList) = some flaw := by
  cases hflaw : r.flaw? (trim raw.toList) with
  | some other => rw [r.refuses hflaw, Except.error.injEq, Option.some_inj]
  | none =>
    obtain ⟨a, ha, -⟩ := r.reads hflaw
    rw [ha]
    exact iff_of_false nofun nofun

/-- A text is read exactly if what it is without the blanks around it breaks no rule. -/
theorem exists_ofText_iff : (∃ a, r.ofText raw = .ok a) ↔ r.flaw? (trim raw.toList) = none := by
  constructor
  · rintro ⟨a, ha⟩
    have hnone := (r.accepted a).2
    rwa [r.ofText_eq_ok_iff.mp ha, toList_trimmed] at hnone
  · intro h
    obtain ⟨a, ha, -⟩ := r.reads h
    exact ⟨a, ha⟩

end Reader

end RecurringBilling.Text
