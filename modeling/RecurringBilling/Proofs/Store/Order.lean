import RecurringBilling.Store.Basic

/-!
# The order of a store

The numbers of a store increase and have all been handed out, the first one being 1.
In such a store the entries, the values and the look-up say the same, so that a
statement about all values can be proved number by number.
-/

namespace RecurringBilling

namespace Store

variable {α : Type}

/-- The numbers increase, and each has been handed out. -/
structure Ordered (s : Store α) : Prop where
  sorted : s.entries.Pairwise fun e f => e.1 < f.1
  issued : ∀ e ∈ s.entries, 1 ≤ e.1 ∧ e.1 ≤ s.lastId

theorem ordered_empty : ({} : Store α).Ordered where
  sorted := List.Pairwise.nil
  issued := by simp

/-! ## Entries and look-ups -/

theorem mem_of_lookup_eq_some {entries : List (Nat × α)} {k : Nat} {a : α}
    (h : entries.lookup k = some a) : (k, a) ∈ entries := by
  induction entries with
  | nil => simp at h
  | cons e rest ih =>
    obtain ⟨n, b⟩ := e
    rw [lookup_cons_ite] at h
    split at h
    · next heq =>
      cases h
      rw [heq]
      exact List.mem_cons_self
    · exact List.mem_cons_of_mem _ (ih h)

theorem lookup_eq_some_of_mem {entries : List (Nat × α)}
    (hsorted : entries.Pairwise fun e f => e.1 < f.1) {k : Nat} {a : α}
    (h : (k, a) ∈ entries) : entries.lookup k = some a := by
  induction entries with
  | nil => simp at h
  | cons e rest ih =>
    obtain ⟨n, b⟩ := e
    rw [List.pairwise_cons] at hsorted
    rw [lookup_cons_ite]
    rcases List.mem_cons.mp h with heq | hrest
    · cases heq
      rw [if_pos rfl]
    · have hlt : n < k := hsorted.1 (k, a) hrest
      -- numbers further on are larger, so the first entry is not the one looked up
      rw [if_neg (by omega)]
      exact ih hsorted.2 hrest

theorem Ordered.mem_entries_iff {s : Store α} (h : s.Ordered) {k : Nat} {a : α} :
    (k, a) ∈ s.entries ↔ s.find? k = some a :=
  ⟨lookup_eq_some_of_mem h.sorted, mem_of_lookup_eq_some⟩

theorem Ordered.mem_values_iff {s : Store α} (h : s.Ordered) {a : α} :
    a ∈ s.values ↔ ∃ k, s.find? k = some a := by
  constructor
  · intro hmem
    obtain ⟨⟨k, b⟩, he, rfl⟩ := List.mem_map.mp hmem
    exact ⟨k, h.mem_entries_iff.mp he⟩
  · rintro ⟨k, hfind⟩
    exact List.mem_map.mpr ⟨(k, a), h.mem_entries_iff.mpr hfind, rfl⟩

/-- Values that carry their numbers stand in the order of those. -/
theorem Ordered.sorted_values {s : Store α} (h : s.Ordered) {number : α → Nat}
    (hnumber : ∀ k a, s.find? k = some a → number a = k) :
    s.values.Pairwise fun a b => number a < number b := by
  rw [values, List.pairwise_map]
  refine h.sorted.imp_of_mem ?_
  intro e f he hf hlt
  rw [hnumber e.1 e.2 (h.mem_entries_iff.mp he), hnumber f.1 f.2 (h.mem_entries_iff.mp hf)]
  exact hlt

theorem Ordered.issued_of_find? {s : Store α} (h : s.Ordered) {k : Nat} {a : α}
    (hfind : s.find? k = some a) : 1 ≤ k ∧ k ≤ s.lastId :=
  h.issued (k, a) (h.mem_entries_iff.mpr hfind)

/-! ## Writing -/

theorem mem_putEntry {id : Nat} {a : α} {entries : List (Nat × α)} {e : Nat × α}
    (h : e ∈ putEntry id a entries) : e = (id, a) ∨ e ∈ entries := by
  induction entries with
  | nil => exact Or.inl (by simpa [putEntry] using h)
  | cons f rest ih =>
    obtain ⟨n, b⟩ := f
    rw [putEntry] at h
    split at h
    · exact List.mem_cons.mp h
    · split at h
      · rcases List.mem_cons.mp h with heq | hrest
        · exact Or.inl heq
        · exact Or.inr (List.mem_cons_of_mem _ hrest)
      · rcases List.mem_cons.mp h with heq | hrest
        · exact Or.inr (List.mem_cons.mpr (Or.inl heq))
        · exact (ih hrest).imp_right (List.mem_cons_of_mem _)

theorem sorted_putEntry (id : Nat) (a : α) {entries : List (Nat × α)}
    (hsorted : entries.Pairwise fun e f => e.1 < f.1) :
    (putEntry id a entries).Pairwise fun e f => e.1 < f.1 := by
  induction entries with
  | nil => exact List.pairwise_singleton _ _
  | cons e rest ih =>
    obtain ⟨n, b⟩ := e
    rw [putEntry]
    have hfirst := (List.pairwise_cons.mp hsorted).1
    have hrest := (List.pairwise_cons.mp hsorted).2
    split
    · next hlt =>
      -- the new entry comes first
      refine List.pairwise_cons.mpr ⟨fun f hf => ?_, hsorted⟩
      rcases List.mem_cons.mp hf with rfl | hf
      · exact hlt
      · exact Nat.lt_trans hlt (hfirst f hf)
    · split
      · next heq =>
        subst heq
        -- the new entry replaces the first
        exact List.pairwise_cons.mpr ⟨hfirst, hrest⟩
      · refine List.pairwise_cons.mpr ⟨fun f hf => ?_, ih hrest⟩
        -- the new entry comes further on
        rcases mem_putEntry hf with rfl | hf
        · show n < id
          omega
        · exact hfirst f hf

theorem Ordered.put {s : Store α} (h : s.Ordered) {id : Nat} (hid : s.contains id = true) (a : α) :
    (s.put id a).Ordered where
  sorted := sorted_putEntry id a h.sorted
  issued := by
    intro e he
    obtain ⟨b, hfind⟩ := Option.isSome_iff_exists.mp hid
    rcases mem_putEntry he with rfl | he
    · exact h.issued_of_find? hfind
    · exact h.issued e he

theorem Ordered.remove {s : Store α} (h : s.Ordered) (id : Nat) : (s.remove id).Ordered where
  sorted := h.sorted.filter _
  issued := by
    intro e he
    exact h.issued e (List.mem_filter.mp he).1

theorem Ordered.add {s : Store α} (h : s.Ordered) (make : Nat → α) : (s.add make).2.Ordered where
  sorted := sorted_putEntry _ _ h.sorted
  issued := by
    intro e he
    show 1 ≤ e.1 ∧ e.1 ≤ s.lastId + 1
    rcases mem_putEntry he with rfl | he
    · exact ⟨Nat.succ_le_succ (Nat.zero_le _), Nat.le_refl _⟩
    · have := h.issued e he
      omega

theorem putEntry_of_lt {id : Nat} (a : α) {entries : List (Nat × α)}
    (hlt : ∀ e ∈ entries, e.1 < id) : putEntry id a entries = entries ++ [(id, a)] := by
  induction entries with
  | nil => rfl
  | cons e rest ih =>
    obtain ⟨n, b⟩ := e
    have hn : n < id := hlt (n, b) List.mem_cons_self
    rw [putEntry, if_neg (by omega), if_neg (by omega),
      ih fun e he => hlt e (List.mem_cons_of_mem _ he), List.cons_append]

/-- A new value stands last. -/
theorem Ordered.values_add {s : Store α} (h : s.Ordered) (make : Nat → α) :
    (s.add make).2.values = s.values ++ [make (s.lastId + 1)] := by
  have hlt : ∀ e ∈ s.entries, e.1 < s.lastId + 1 := by
    intro e he
    have := h.issued e he
    omega
  show (putEntry (s.lastId + 1) (make (s.lastId + 1)) s.entries).map Prod.snd = _
  rw [putEntry_of_lt _ hlt, List.map_append]
  rfl

/-- Replacing a value that fails a test by another that fails it changes nothing to the test. -/
theorem filter_putEntry {p : Nat × α → Bool} {id : Nat} {a : α} {entries : List (Nat × α)}
    (hnew : p (id, a) = false) (hold : ∀ e ∈ entries, e.1 = id → p e = false) :
    (putEntry id a entries).filter p = entries.filter p := by
  induction entries with
  | nil => simp [putEntry, hnew]
  | cons e rest ih =>
    obtain ⟨n, b⟩ := e
    rw [putEntry]
    split
    · rw [List.filter_cons_of_neg (by simp [hnew])]
    · split
      · next heq =>
        have hdropped : p (n, b) = false := hold (n, b) List.mem_cons_self heq.symm
        rw [List.filter_cons_of_neg (by simp [hnew]),
          List.filter_cons_of_neg (by simp [hdropped])]
      · rw [List.filter_cons, List.filter_cons,
          ih fun e he => hold e (List.mem_cons_of_mem _ he)]

end Store

end RecurringBilling
