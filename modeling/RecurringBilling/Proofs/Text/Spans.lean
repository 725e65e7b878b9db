import RecurringBilling.Text.Span

/-!
# What tables of ranges cover

A table with increasing ranges may be searched by halving: the ranges left of one that ends before
the code point end before it too, and the ranges right of one that starts after it start after it
too.  So halving answers as a look at every range does (`SpanTable.search_eq_scan`).  Tables are
compared range by range, which settles questions about every code point by finitely many
comparisons.
-/

namespace RecurringBilling.Text

/-- The code point lies in one of the ranges. -/
def Covers (spans : List Span) (c : Nat) : Prop := ∃ s ∈ spans, s.Contains c

instance (spans : List Span) (c : Nat) : Decidable (Covers spans c) :=
  inferInstanceAs (Decidable (∃ s ∈ spans, s.Contains c))

/-! ## Comparing tables -/

/-- Each range of the one table lies within a range of the other one. -/
def Within (inner outer : List Span) : Prop :=
  ∀ s ∈ inner, ∃ t ∈ outer, t.lo ≤ s.lo ∧ s.hi ≤ t.hi

instance (inner outer : List Span) : Decidable (Within inner outer) :=
  inferInstanceAs (Decidable (∀ s ∈ inner, ∃ t ∈ outer, t.lo ≤ s.lo ∧ s.hi ≤ t.hi))

/-- No range of the one table meets a range of the other one. -/
def Apart (spans others : List Span) : Prop :=
  ∀ s ∈ spans, ∀ t ∈ others, s.hi < t.lo ∨ t.hi < s.lo

instance (spans others : List Span) : Decidable (Apart spans others) :=
  inferInstanceAs (Decidable (∀ s ∈ spans, ∀ t ∈ others, s.hi < t.lo ∨ t.hi < s.lo))

section Tables

variable {spans others : List Span} {c : Nat}

theorem covers_append : Covers (spans ++ others) c ↔ Covers spans c ∨ Covers others c := by
  simp only [Covers, List.mem_append, or_and_right, exists_or]

theorem Covers.of_within (h : Covers spans c) (hwithin : Within spans others) :
    Covers others c := by
  obtain ⟨s, hs, hlo, hhi⟩ := h
  obtain ⟨t, ht, htlo, hthi⟩ := hwithin s hs
  exact ⟨t, ht, Nat.le_trans htlo hlo, Nat.le_trans hhi hthi⟩

theorem Covers.not_of_apart (h : Covers spans c) (hapart : Apart spans others) :
    ¬Covers others c := by
  obtain ⟨s, hs, hlo, hhi⟩ := h
  rintro ⟨t, ht, htlo, hthi⟩
  rcases hapart s hs t ht with hbefore | hafter <;> omega

end Tables

/-! ## Searching by halving -/

namespace SpanTable

instance decidableIncreasing : (spans : List Span) → Decidable (Increasing spans)
  | [] => .isTrue trivial
  | [s] => inferInstanceAs (Decidable (s.lo ≤ s.hi))
  | s :: t :: rest =>
    have := decidableIncreasing (t :: rest)
    inferInstanceAs (Decidable (s.lo ≤ s.hi ∧ s.hi < t.lo ∧ Increasing (t :: rest)))

/-- Increasing ranges are not empty, and each one ends before all later ones start. -/
theorem Increasing.ordered {spans : List Span} (h : Increasing spans) :
    (∀ s ∈ spans, s.lo ≤ s.hi) ∧ spans.Pairwise fun s t => s.hi < t.lo := by
  induction spans with
  | nil => exact ⟨nofun, .nil⟩
  | cons s rest ih =>
    cases rest with
    | nil => exact ⟨List.forall_mem_singleton.mpr h, List.pairwise_singleton _ s⟩
    | cons t rest =>
      obtain ⟨hs, hnext, hrest⟩ := h
      obtain ⟨hproper, hpairs⟩ := ih hrest
      refine ⟨List.forall_mem_cons.mpr ⟨hs, hproper⟩, hpairs.cons ?_⟩
      have ht := hproper t List.mem_cons_self
      have hlater := (List.pairwise_cons.mp hpairs).1
      refine List.forall_mem_cons.mpr ⟨hnext, fun u hu => ?_⟩
      calc s.hi < t.lo := hnext
        _ ≤ t.hi := ht
        _ < u.lo := hlater u hu

variable {table : SpanTable} {c : Nat}

theorem Increasing.lo_le_hi (h : Increasing table.toList) {i : Nat} (hi : i < table.size) :
    table[i].lo ≤ table[i].hi :=
  h.ordered.1 table[i] (Array.getElem_mem_toList hi)

theorem Increasing.hi_lt_lo (h : Increasing table.toList) {i j : Nat} (hij : i < j)
    (hj : j < table.size) : table[i].hi < table[j].lo :=
  List.pairwise_iff_getElem.mp h.ordered.2 i j (Nat.lt_trans hij hj) hj hij

theorem Increasing.lo_le_lo (h : Increasing table.toList) {i j : Nat} (hij : i ≤ j)
    (hj : j < table.size) : table[i].lo ≤ table[j].lo := by
  rcases Nat.lt_or_eq_of_le hij with hlt | rfl
  · exact Nat.le_of_lt (Nat.lt_of_le_of_lt (h.lo_le_hi (by omega)) (h.hi_lt_lo hlt hj))
  · exact Nat.le_refl _

theorem Increasing.hi_le_hi (h : Increasing table.toList) {i j : Nat} (hij : i ≤ j)
    (hj : j < table.size) : table[i].hi ≤ table[j].hi := by
  rcases Nat.lt_or_eq_of_le hij with hlt | rfl
  · exact Nat.le_of_lt (Nat.lt_of_lt_of_le (h.hi_lt_lo hlt hj) (h.lo_le_hi hj))
  · exact Nat.le_refl _

/-- The code point lies in the range at some position between the two. -/
def CoversBetween (table : SpanTable) (c start stop : Nat) : Prop :=
  ∃ (i : Nat) (hi : i < table.size), start ≤ i ∧ i < stop ∧ table[i].Contains c

/-- Left of a range that ends before the code point no range holds it. -/
theorem Increasing.coversBetween_right (h : Increasing table.toList) {start mid stop : Nat}
    (hmid : mid < table.size) (hstart : start ≤ mid) (hbelow : table[mid].hi < c) :
    table.CoversBetween c (mid + 1) stop ↔ table.CoversBetween c start stop := by
  constructor
  · rintro ⟨i, hi, hfrom, hto, hcontains⟩
    exact ⟨i, hi, by omega, hto, hcontains⟩
  · rintro ⟨i, hi, hfrom, hto, hcontains⟩
    refine ⟨i, hi, Nat.lt_of_not_le fun hle => ?_, hto, hcontains⟩
    have hlast := h.hi_le_hi hle hmid
    exact absurd (Nat.le_trans hcontains.2 hlast) (Nat.not_le.mpr hbelow)

/-- Right of a range that starts after the code point no range holds it. -/
theorem Increasing.coversBetween_left (h : Increasing table.toList) {start mid stop : Nat}
    (hmid : mid < table.size) (hstop : mid ≤ stop) (habove : c < table[mid].lo) :
    table.CoversBetween c start mid ↔ table.CoversBetween c start stop := by
  constructor
  · rintro ⟨i, hi, hfrom, hto, hcontains⟩
    exact ⟨i, hi, hfrom, by omega, hcontains⟩
  · rintro ⟨i, hi, hfrom, hto, hcontains⟩
    refine ⟨i, hi, hfrom, Nat.lt_of_not_le fun hle => ?_, hcontains⟩
    have hfirst := h.lo_le_lo hle hi
    exact absurd (Nat.le_trans hfirst hcontains.1) (Nat.not_le.mpr habove)

theorem not_coversBetween_of_le {start stop : Nat} (h : stop ≤ start) :
    ¬table.CoversBetween c start stop := by
  rintro ⟨i, _, hfrom, hto, _⟩
  omega

/-- Halving finds a range between two positions if there is one and steps enough are left. -/
theorem searchBetween_eq_true_iff (h : Increasing table.toList) {fuel start stop : Nat}
    (hfuel : stop - start ≤ fuel) (hstop : stop ≤ table.size) :
    table.searchBetween c fuel start stop = true ↔ table.CoversBetween c start stop := by
  induction fuel generalizing start stop with
  | zero => exact iff_of_false Bool.false_ne_true (not_coversBetween_of_le (by omega))
  | succ fuel ih =>
    rw [searchBetween]
    split
    · next hopen =>
      obtain ⟨mid, hmid⟩ : ∃ mid, mid = start + (stop - start) / 2 := ⟨_, rfl⟩
      have hin : mid < table.size := by omega
      simp only [← hmid, Array.getElem?_eq_getElem hin]
      split
      · next hbelow =>
        rw [ih (by omega) hstop]
        exact h.coversBetween_right hin (by omega) hbelow
      · next hreaches =>
        split
        · next habove =>
          rw [ih (by omega) (by omega)]
          exact h.coversBetween_left hin (by omega) habove
        · next hstarts =>
          exact iff_of_true rfl
            ⟨mid, hin, by omega, by omega, Nat.not_lt.mp hstarts, Nat.not_lt.mp hreaches⟩
    · next hclosed =>
      exact iff_of_false Bool.false_ne_true (not_coversBetween_of_le (Nat.not_lt.mp hclosed))

/-- In a table with increasing ranges halving finds what the table covers. -/
theorem search_eq_true_iff (h : Increasing table.toList) :
    table.search c = true ↔ Covers table.toList c := by
  rw [search, searchBetween_eq_true_iff h (Nat.sub_le _ _) (Nat.le_refl _)]
  constructor
  · rintro ⟨i, hi, -, -, hcontains⟩
    exact ⟨table[i], Array.getElem_mem_toList hi, hcontains⟩
  · rintro ⟨s, hs, hcontains⟩
    obtain ⟨i, hi, rfl⟩ := List.getElem_of_mem hs
    exact ⟨i, hi, Nat.zero_le i, hi, hcontains⟩

/-- In a table with increasing ranges halving answers as looking at every range does. -/
theorem search_eq_scan (h : Increasing table.toList) : table.search c = table.scan c := by
  rw [Bool.eq_iff_iff, search_eq_true_iff h, scan_eq_true_iff, Covers]

-- A range that stands out of order is lost to halving.
example : scan #[⟨5, 6⟩, ⟨1, 2⟩] 5 = true ∧ search #[⟨5, 6⟩, ⟨1, 2⟩] 5 = false := by decide

end SpanTable

end RecurringBilling.Text
