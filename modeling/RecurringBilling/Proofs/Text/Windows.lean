import RecurringBilling.Text.Run

/-!
# Windows of a text

A run of characters shows as a window: so many neighbouring characters of one kind.  Looking for
the run at every place finds a window, and so does counting through the text, where a count that
was started earlier stands for the part of a window that lies before the text.
-/

namespace RecurringBilling.Text

/-- Some `n` neighbouring characters of the text all have the property. -/
def HasWindow (P : Char → Prop) (n : Nat) (s : List Char) : Prop :=
  ∃ w, w <:+: s ∧ w.length = n ∧ ∀ c ∈ w, P c

theorem HasWindow.congr {P Q : Char → Prop} (h : ∀ c, P c ↔ Q c) {n : Nat} {s : List Char} :
    HasWindow P n s ↔ HasWindow Q n s := by
  simp only [HasWindow, h]

section Runs

variable {p : Char → Bool} {limit n : Nat} {s : List Char}

/-- A text starts with a run if a window stands at its start. -/
theorem startsWithRun_eq_true_iff :
    startsWithRun p n s = true ↔ ∃ w, w <+: s ∧ w.length = n ∧ ∀ c ∈ w, p c = true := by
  induction n generalizing s with
  | zero =>
    refine iff_of_true (by rw [startsWithRun]) ⟨[], List.nil_prefix, rfl, ?_⟩
    exact fun c hc => absurd hc List.not_mem_nil
  | succ n ih =>
    cases s with
    | nil => simp [startsWithRun]
    | cons c s =>
      rw [startsWithRun, Bool.and_eq_true, ih]
      constructor
      · rintro ⟨hc, w, hprefix, hlength, hall⟩
        exact ⟨c :: w, (List.prefix_cons_inj c).mpr hprefix, congrArg Nat.succ hlength,
          List.forall_mem_cons.mpr ⟨hc, hall⟩⟩
      · rintro ⟨w, hprefix, hlength, hall⟩
        obtain ⟨d, w, rfl⟩ := List.exists_cons_of_length_eq_add_one hlength
        obtain ⟨rfl, htail⟩ := List.cons_prefix_cons.mp hprefix
        obtain ⟨hc, hrest⟩ := List.forall_mem_cons.mp hall
        exact ⟨hc, w, htail, Nat.succ.inj hlength, hrest⟩

/-- A text has a run if a window stands anywhere in it. -/
theorem hasRun_eq_true_iff : hasRun p n s = true ↔ HasWindow (fun c => p c = true) n s := by
  induction s with
  | nil =>
    simp only [hasRun, HasWindow, List.infix_nil, beq_iff_eq]
    constructor
    · rintro rfl
      exact ⟨[], rfl, rfl, fun c hc => absurd hc List.not_mem_nil⟩
    · rintro ⟨w, rfl, hlength, -⟩
      exact hlength.symm
  | cons c s ih =>
    simp only [hasRun, Bool.or_eq_true, startsWithRun_eq_true_iff, ih, HasWindow,
      List.infix_cons_iff, or_and_right, exists_or]

theorem hasRun_eq_char_iff {c : Char} :
    hasRun (· = c) n s = true ↔ HasWindow (· = c) n s := by
  rw [hasRun_eq_true_iff]
  exact HasWindow.congr fun d => decide_eq_true_iff

theorem startsWithRun_of_le {m : Nat} (hle : m ≤ n) (h : startsWithRun p n s = true) :
    startsWithRun p m s = true := by
  rw [startsWithRun_eq_true_iff] at h ⊢
  obtain ⟨w, hprefix, hlength, hall⟩ := h
  refine ⟨w.take m, (List.take_prefix m w).trans hprefix, by simp; omega, ?_⟩
  exact fun c hc => hall c (List.mem_of_mem_take hc)

theorem hasRun_of_startsWithRun (h : startsWithRun p n s = true) : hasRun p n s = true := by
  rw [startsWithRun_eq_true_iff] at h
  obtain ⟨w, hprefix, hrest⟩ := h
  exact hasRun_eq_true_iff.mpr ⟨w, hprefix.isInfix, hrest⟩

/-- A count that has not gone past the limit yet goes past it exactly if the text starts with what
the count still lacks or has more than the limit in a row itself. -/
theorem runsPast_eq {run : Nat} (hrun : run ≤ limit) :
    runsPast p limit run s =
      (startsWithRun p (limit + 1 - run) s || hasRun p (limit + 1) s) := by
  induction s generalizing run with
  | nil =>
    obtain ⟨lacking, hlacking⟩ : ∃ k, limit + 1 - run = k + 1 := ⟨limit - run, by omega⟩
    rw [hlacking]
    rfl
  | cons c s ih =>
    have hlacking : limit + 1 - run = (limit - run) + 1 := by omega
    rw [hlacking, runsPast, hasRun, startsWithRun, startsWithRun]
    cases hc : p c with
    | false =>
      -- the count starts again, and a run at the start of the rest is one within it
      rw [if_neg Bool.false_ne_true, ih (Nat.zero_le limit), Nat.sub_zero]
      simp only [Bool.false_and, Bool.false_or, Bool.or_eq_right_iff_imp]
      exact hasRun_of_startsWithRun
    | true =>
      rw [if_pos rfl]
      split
      · next hpast =>
        obtain rfl : run = limit := by omega
        simp [startsWithRun]
      · next hwithin =>
        -- a longer run at the start of the rest contains the one that is lacking
        have hshorter : startsWithRun p limit s = true →
            startsWithRun p (limit - run) s = true := startsWithRun_of_le (Nat.sub_le limit run)
        rw [ih (by omega), Nat.succ_sub_succ]
        cases hlong : startsWithRun p limit s with
        | false => simp
        | true => simp [hshorter hlong]

/-- Counting through a text finds what looking at every place finds. -/
theorem runsPast_eq_true_iff :
    runsPast p limit 0 s = true ↔ HasWindow (fun c => p c = true) (limit + 1) s := by
  rw [runsPast_eq (Nat.zero_le limit), Nat.sub_zero, Bool.or_eq_true, ← hasRun_eq_true_iff]
  exact ⟨fun h => h.elim hasRun_of_startsWithRun id, .inr⟩

end Runs

end RecurringBilling.Text
