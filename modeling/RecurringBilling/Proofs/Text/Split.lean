import RecurringBilling.Text.Run
import RecurringBilling.Text.Split

/-!
# Texts and their parts

Splitting at a mark gives the one sequence of parts without the mark that make up the text again
when the mark is put between each two.  All parts hold something exactly if the text does, if it
neither starts nor ends with the mark, and if no two marks stand side by side.
-/

namespace RecurringBilling.Text

variable {mark : Char} {s : List Char} {parts : List (List Char)}

/-! ## Splitting and joining -/

/-- The text that has the parts with the mark between each two. -/
def joined (mark : Char) (parts : List (List Char)) : List Char := [mark].intercalate parts

theorem splitAt_cons_self (mark : Char) (s : List Char) :
    splitAt mark (mark :: s) = [] :: splitAt mark s := by
  rw [splitAt, if_pos rfl]

/-- Another character goes with the first part of the rest. -/
theorem splitAt_cons_of_ne {c : Char} (hc : c ≠ mark) (s : List Char) :
    ∃ part parts,
      splitAt mark s = part :: parts ∧ splitAt mark (c :: s) = (c :: part) :: parts := by
  cases hs : splitAt mark s with
  | nil => exact absurd hs (splitAt_ne_nil mark s)
  | cons part parts =>
    refine ⟨part, parts, rfl, ?_⟩
    rw [splitAt, if_neg hc, hs]

theorem splitAt_eq_splitOn (mark : Char) (s : List Char) : splitAt mark s = s.splitOn mark := by
  induction s with
  | nil => rfl
  | cons c s ih =>
    rw [List.splitOn_cons_eq_if_modifyHead, ← ih]
    by_cases hc : c = mark
    · subst hc
      rw [splitAt_cons_self, if_pos (beq_self_eq_true c)]
    · obtain ⟨part, parts, hs, hcs⟩ := splitAt_cons_of_ne hc s
      rw [hcs, hs, if_neg (by simpa using hc)]
      rfl

theorem not_mem_of_mem_splitAt {part : List Char} (h : part ∈ splitAt mark s) : mark ∉ part := by
  induction s generalizing part with
  | nil =>
    rw [List.mem_singleton.mp h]
    exact List.not_mem_nil
  | cons c s ih =>
    by_cases hc : c = mark
    · subst hc
      rw [splitAt_cons_self] at h
      rcases List.mem_cons.mp h with rfl | hrest
      · exact List.not_mem_nil
      · exact ih hrest
    · obtain ⟨first, parts, hs, hcs⟩ := splitAt_cons_of_ne hc s
      rw [hs] at ih
      rw [hcs] at h
      rcases List.mem_cons.mp h with rfl | hrest
      · have hfirst := ih List.mem_cons_self
        simp [Ne.symm hc, hfirst]
      · exact ih (List.mem_cons_of_mem _ hrest)

/-- The parts of a text are the parts without the mark that it is made of. -/
theorem splitAt_eq_iff :
    splitAt mark s = parts ↔
      parts ≠ [] ∧ (∀ part ∈ parts, mark ∉ part) ∧ joined mark parts = s := by
  constructor
  · rintro rfl
    refine ⟨splitAt_ne_nil mark s, fun part hpart => not_mem_of_mem_splitAt hpart, ?_⟩
    rw [joined, splitAt_eq_splitOn, List.intercalate_splitOn]
  · rintro ⟨hne, hfree, rfl⟩
    rw [splitAt_eq_splitOn, joined, List.splitOn_intercalate mark hfree hne]

theorem splitAt_joined (hne : parts ≠ []) (hfree : ∀ part ∈ parts, mark ∉ part) :
    splitAt mark (joined mark parts) = parts :=
  splitAt_eq_iff.mpr ⟨hne, hfree, rfl⟩

theorem joined_splitAt (mark : Char) (s : List Char) : joined mark (splitAt mark s) = s :=
  (splitAt_eq_iff.mp rfl).2.2

theorem joined_cons_cons (mark : Char) (part next : List Char) (rest : List (List Char)) :
    joined mark (part :: next :: rest) = part ++ mark :: joined mark (next :: rest) := by
  rw [joined, joined, List.intercalate_cons_cons, List.append_assoc, List.singleton_append]

theorem joined_concat (mark : Char) (hne : parts ≠ []) (last : List Char) :
    joined mark (parts ++ [last]) = joined mark parts ++ mark :: last := by
  induction parts with
  | nil => exact absurd rfl hne
  | cons part rest ih =>
    cases rest with
    | nil => simp [joined]
    | cons next rest =>
      have hrest := ih (List.cons_ne_nil next rest)
      rw [List.cons_append] at hrest
      rw [List.cons_append, List.cons_append, joined_cons_cons, joined_cons_cons, hrest,
        List.append_assoc, List.cons_append]

/-- A text starts like its first part. -/
theorem head?_joined_cons {part : List Char} (h : part ≠ []) (rest : List (List Char)) :
    (joined mark (part :: rest)).head? = part.head? := by
  obtain ⟨c, s, rfl⟩ := List.exists_cons_of_ne_nil h
  cases rest with
  | nil => simp [joined]
  | cons next rest => rw [joined_cons_cons]; rfl

/-- A text ends like its last part. -/
theorem getLast?_joined_concat {last : List Char} (h : last ≠ []) (parts : List (List Char)) :
    (joined mark (parts ++ [last])).getLast? = last.getLast? := by
  by_cases hne : parts = []
  · subst hne
    simp [joined]
  · rw [joined_concat mark hne, ← List.dropLast_concat_getLast h, ← List.cons_append,
      ← List.append_assoc, List.getLast?_concat, List.getLast?_concat]

/-- The characters of a text are those of its parts and, where there are two, the mark. -/
theorem mem_joined_iff {c : Char} :
    c ∈ joined mark parts ↔ (∃ part ∈ parts, c ∈ part) ∨ (c = mark ∧ 2 ≤ parts.length) := by
  induction parts with
  | nil => simp [joined]
  | cons part rest ih =>
    cases rest with
    | nil => simp [joined]
    | cons next rest =>
      have htwo : 2 ≤ (part :: next :: rest).length := by simp
      have hparts : (∃ p ∈ part :: next :: rest, c ∈ p) ↔
          c ∈ part ∨ ∃ p ∈ next :: rest, c ∈ p := by simp
      rw [joined_cons_cons, List.mem_append, List.mem_cons, ih, hparts]
      constructor
      · rintro (hpart | hmark | hnext | ⟨hmark, -⟩)
        · exact .inl (.inl hpart)
        · exact .inr ⟨hmark, htwo⟩
        · exact .inl (.inr hnext)
        · exact .inr ⟨hmark, htwo⟩
      · rintro ((hpart | hnext) | ⟨hmark, -⟩)
        · exact .inl hpart
        · exact .inr (.inr (.inl hnext))
        · exact .inr (.inl hmark)

theorem not_mem_joined {c : Char} (hc : c ≠ mark) (h : ∀ part ∈ parts, c ∉ part) :
    c ∉ joined mark parts := by
  rw [mem_joined_iff]
  rintro (⟨part, hpart, hmem⟩ | ⟨hmark, -⟩)
  · exact h part hpart hmem
  · exact hc hmark

/-- A text has the mark exactly if it has two parts. -/
theorem mem_iff_two_le_length_splitAt : mark ∈ s ↔ 2 ≤ (splitAt mark s).length := by
  obtain ⟨-, hfree, hjoined⟩ := splitAt_eq_iff.mp (show splitAt mark s = _ from rfl)
  constructor
  · intro h
    rw [← hjoined, mem_joined_iff] at h
    rcases h with ⟨part, hpart, hmark⟩ | ⟨-, htwo⟩
    · exact absurd hmark (hfree part hpart)
    · exact htwo
  · intro h
    rw [← hjoined, mem_joined_iff]
    exact .inr ⟨rfl, h⟩

/-! ## Parts that hold something -/

/-- The first part holds something if the text does and does not start with the mark. -/
theorem forall_mem_splitAt_iff_tail :
    (∀ part ∈ splitAt mark s, part ≠ []) ↔
      s ≠ [] ∧ s.head? ≠ some mark ∧ ∀ part ∈ (splitAt mark s).tail, part ≠ [] := by
  cases s with
  | nil => simp [splitAt]
  | cons c s =>
    by_cases hc : c = mark
    · subst hc
      simp [splitAt_cons_self]
    · obtain ⟨part, parts, -, hcs⟩ := splitAt_cons_of_ne hc s
      simp [hcs, hc]

/-- The parts after the first hold something if the text does not end with the mark and no two
marks stand side by side. -/
theorem forall_mem_tail_splitAt_iff :
    (∀ part ∈ (splitAt mark s).tail, part ≠ []) ↔
      s.getLast? ≠ some mark ∧ hasRun (· = mark) 2 s = false := by
  induction s with
  | nil => simp [splitAt, hasRun]
  | cons c s ih =>
    by_cases hc : c = mark
    · -- what follows the mark has a first part, too
      subst hc
      rw [splitAt_cons_self, List.tail_cons, forall_mem_splitAt_iff_tail, ih]
      cases s with
      | nil => simp
      | cons d s => simp [hasRun, startsWithRun, and_left_comm]
    · obtain ⟨part, parts, hs, hcs⟩ := splitAt_cons_of_ne hc s
      have htail : (splitAt mark (c :: s)).tail = (splitAt mark s).tail := by rw [hcs, hs]; rfl
      rw [htail, ih]
      cases s with
      | nil => simp [hasRun, startsWithRun, hc]
      | cons d s => simp [hasRun, startsWithRun, hc]

/-- All parts hold something if the text does, if no mark stands at its edges and no two marks
stand side by side. -/
theorem forall_mem_splitAt_ne_nil_iff :
    (∀ part ∈ splitAt mark s, part ≠ []) ↔
      s ≠ [] ∧ s.head? ≠ some mark ∧ s.getLast? ≠ some mark ∧
        hasRun (· = mark) 2 s = false := by
  rw [forall_mem_splitAt_iff_tail, forall_mem_tail_splitAt_iff]

end RecurringBilling.Text
