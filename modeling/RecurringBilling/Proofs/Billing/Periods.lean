import Mathlib.Data.List.Nodup
import Mathlib.Data.List.Perm.Subperm
import RecurringBilling.Proofs.Calendar.Succession

/-!
# Periods one after the other

An end date can be advanced by any number of periods, as long as the calendar holds.
Renewals that advance a shared end date each start from the end that they have read, and
write the next one.  A trail records the ends from which they started, as numbers of
periods, in whatever order they wrote: each of them, but for the very first, had been
written by another one before.  The end date reaches as far as there were
renewals exactly when no two of them started from the same end.
-/

namespace RecurringBilling

open RecurringBilling.Calendar

/-- The end after a number of further periods. -/
def advance (interval : PlanInterval) : Nat → Instant → Option Instant
  | 0, e => some e
  | n + 1, e => (advance interval n e).bind fun x => periodEnd? x interval

section Advance

variable {interval : PlanInterval} {e x y : Instant} {n : Nat}

theorem advance_succ (h : advance interval n e = some x) :
    advance interval (n + 1) e = periodEnd? x interval := by
  rw [advance, h]
  rfl

/-- More periods end later. -/
theorem isBefore_of_advance {k : Nat} (hx : advance interval n e = some x)
    (hy : advance interval (n + k + 1) e = some y) : x.isBefore y = true := by
  induction k generalizing y with
  | zero =>
    rw [Nat.add_zero, advance_succ hx] at hy
    exact isBefore_of_periodEnd? hy
  | succ k ih =>
    cases hz : advance interval (n + k + 1) e with
    | none =>
      rw [← Nat.add_assoc, advance, hz] at hy
      cases hy
    | some z =>
      rw [← Nat.add_assoc, advance_succ hz] at hy
      exact Instant.isBefore_trans (ih hz) (isBefore_of_periodEnd? hy)

/-- An end tells by how many periods it was advanced. -/
theorem advance_inj {m : Nat} (hm : advance interval m e = some x)
    (hn : advance interval n e = some x) : m = n := by
  have hirrefl := Instant.isBefore_irrefl x
  -- with different numbers of periods the end would be before itself
  rcases Nat.lt_trichotomy m n with hlt | heq | hlt
  · obtain ⟨k, rfl⟩ := Nat.exists_eq_add_of_lt hlt
    rw [isBefore_of_advance hm hn] at hirrefl
    cases hirrefl
  · exact heq
  · obtain ⟨k, rfl⟩ := Nat.exists_eq_add_of_lt hlt
    rw [isBefore_of_advance hn hm] at hirrefl
    cases hirrefl

/-- Different numbers of periods lead to different ends. -/
theorem nodup_map_advance_iff {numbers : List Nat}
    (hdefined : ∀ a ∈ numbers, ∃ x, advance interval a e = some x) :
    (numbers.map fun a => advance interval a e).Nodup ↔ numbers.Nodup := by
  constructor
  · exact List.Nodup.of_map _
  · intro hnodup
    refine hnodup.map_on ?_
    intro a ha b _ hab
    obtain ⟨x, hx⟩ := hdefined a ha
    exact advance_inj hx (hab.symm.trans hx)

end Advance

/-- The end `reached` periods on has been written, by renewals that started from the ends that
`starts` counts: each but the first end was written by one of them, and if they all started from
different ends, they wrote one after the other. -/
structure Trail (starts : List Nat) (reached : Nat) : Prop where
  closed : ∀ a ∈ starts, a = 0 ∨ a - 1 ∈ starts
  top : reached = 0 ∨ reached - 1 ∈ starts
  inTurn : starts.Nodup → reached = starts.length ∧ starts.Perm (List.range starts.length)

namespace Trail

variable {starts : List Nat} {reached a : Nat}

theorem empty : Trail [] 0 where
  closed := by simp
  top := Or.inl rfl
  inTurn := fun _ => ⟨rfl, List.Perm.refl _⟩

/-- A renewal that starts from an end that had been written writes the next one. -/
theorem write (h : Trail starts reached) (ha : a = 0 ∨ a - 1 ∈ starts) :
    Trail (a :: starts) (a + 1) where
  closed := by
    intro b hb
    rcases List.mem_cons.mp hb with rfl | hb
    · exact ha.imp_right (List.mem_cons_of_mem _)
    · exact (h.closed b hb).imp_right (List.mem_cons_of_mem _)
  top := Or.inr (by simp)
  inTurn := by
    intro hnodup
    obtain ⟨hnew, hstarts⟩ := List.nodup_cons.mp hnodup
    obtain ⟨-, hperm⟩ := h.inTurn hstarts
    -- so far all ends below the number of renewals were starts, so this start is the next
    have hge : starts.length ≤ a := by
      rw [hperm.mem_iff, List.mem_range] at hnew
      omega
    have hle : a ≤ starts.length := by
      rcases ha with rfl | ha
      · exact Nat.zero_le _
      · rw [hperm.mem_iff, List.mem_range] at ha
        omega
    have hlast : a = starts.length := Nat.le_antisymm hle hge
    subst hlast
    refine ⟨rfl, ?_⟩
    rw [List.length_cons, List.range_succ]
    exact (hperm.cons _).trans (List.perm_append_singleton _ _).symm

theorem mem_of_le (h : Trail starts reached) (ha : a ∈ starts) {b : Nat} (hb : b ≤ a) :
    b ∈ starts := by
  induction a generalizing b with
  | zero => exact (Nat.le_zero.mp hb) ▸ ha
  | succ a ih =>
    by_cases heq : b = a + 1
    · rw [heq]
      exact ha
    · rcases h.closed (a + 1) ha with hzero | hprevious
      · omega
      · exact ih hprevious (by omega)

theorem range_subset (h : Trail starts reached) : List.range reached ⊆ starts := by
  intro b hb
  rw [List.mem_range] at hb
  -- the last write started from the end before, and so on down to the first
  rcases h.top with hzero | htop
  · omega
  · exact h.mem_of_le htop (by omega)

/-- The end date does not reach further than there were renewals. -/
theorem reached_le (h : Trail starts reached) : reached ≤ starts.length := by
  have hsubperm := List.subperm_of_subset List.nodup_range h.range_subset
  simpa using hsubperm.length_le

/-- It reaches exactly as far if they all started from different ends. -/
theorem reached_eq_iff (h : Trail starts reached) :
    reached = starts.length ↔ starts.Nodup := by
  constructor
  · intro hreached
    -- as many starts as numbers below the end, and each of these among them: they are the same
    have hsubperm := List.subperm_of_subset List.nodup_range h.range_subset
    have hperm : (List.range reached).Perm starts :=
      hsubperm.perm_of_length_le (by simp [hreached])
    exact hperm.nodup_iff.mp List.nodup_range
  · intro hnodup
    exact (h.inTurn hnodup).1

end Trail

end RecurringBilling
