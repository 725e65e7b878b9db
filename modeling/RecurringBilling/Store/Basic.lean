/-!
# Numbered stores

A store keeps values under numbers, in increasing order of the numbers, and
hands out the numbers 1, 2, 3, … one after the other.  A number that has been
handed out is never handed out again, whatever becomes of its value.
-/

namespace RecurringBilling

/-- Values under numbers, and the number handed out last. -/
structure Store (α : Type) where
  entries : List (Nat × α) := []
  lastId : Nat := 0
  deriving DecidableEq

namespace Store

variable {α : Type}

/-- The value under a number. -/
def find? (s : Store α) (id : Nat) : Option α := s.entries.lookup id

/-- A value stands under the number. -/
def contains (s : Store α) (id : Nat) : Bool := (s.find? id).isSome

/-- Every value, in the order of the numbers. -/
def values (s : Store α) : List α := s.entries.map Prod.snd

/-- Puts a value under a number, in place of an earlier one. -/
def putEntry (id : Nat) (a : α) : List (Nat × α) → List (Nat × α)
  | [] => [(id, a)]
  | (k, b) :: rest =>
    if id < k then (id, a) :: (k, b) :: rest
    else if id = k then (id, a) :: rest
    else (k, b) :: putEntry id a rest

/-- The store with a value under a number. -/
def put (s : Store α) (id : Nat) (a : α) : Store α := { s with entries := putEntry id a s.entries }

/-- The store without a value under a number. -/
def remove (s : Store α) (id : Nat) : Store α :=
  { s with entries := s.entries.filter fun e => e.1 != id }

/-- Puts a value under the next number. -/
def add (s : Store α) (make : Nat → α) : α × Store α :=
  let id := s.lastId + 1
  (make id, { entries := putEntry id (make id) s.entries, lastId := id })

/-- Looking up behind one entry. -/
theorem lookup_cons_ite (id k : Nat) (a : α) (rest : List (Nat × α)) :
    ((id, a) :: rest).lookup k = if k = id then some a else rest.lookup k := by
  rw [List.lookup_cons]
  by_cases h : k = id
  · simp [h]
  · have hne : (k == id) = false := by simpa using h
    simp [h, hne]

theorem lookup_putEntry (id k : Nat) (a : α) (entries : List (Nat × α)) :
    (putEntry id a entries).lookup k = if k = id then some a else entries.lookup k := by
  induction entries with
  | nil => rw [putEntry, lookup_cons_ite]
  | cons e rest ih =>
    obtain ⟨n, b⟩ := e
    rw [putEntry]
    split
    · rw [lookup_cons_ite]
    · split
      · next heq =>
        rw [lookup_cons_ite, lookup_cons_ite, heq]
        split <;> rfl
      · next hne =>
        rw [lookup_cons_ite, lookup_cons_ite, ih]
        by_cases hn : k = n
        · have hk : ¬k = id := fun h => hne (h.symm.trans hn)
          simp [hn]
          omega
        · simp [hn]

theorem lookup_filter_ne (id k : Nat) (entries : List (Nat × α)) :
    (entries.filter fun e => e.1 != id).lookup k = if k = id then none else entries.lookup k := by
  induction entries with
  | nil => simp
  | cons e rest ih =>
    obtain ⟨n, b⟩ := e
    by_cases hn : n = id
    · rw [List.filter_cons_of_neg (by simp [hn]), ih, lookup_cons_ite, hn]
      split <;> rfl
    · rw [List.filter_cons_of_pos (by simp [hn]), lookup_cons_ite, lookup_cons_ite, ih]
      by_cases hk : k = n
      · have hne : ¬k = id := fun h => hn (hk.symm.trans h)
        rw [if_pos hk, if_neg hne, if_pos hk]
      · rw [if_neg hk, if_neg hk]

/-- Putting a value changes what stands under its number and nothing else. -/
theorem find?_put (s : Store α) (id k : Nat) (a : α) :
    (s.put id a).find? k = if k = id then some a else s.find? k :=
  lookup_putEntry id k a s.entries

/-- Removing a value changes what stands under its number and nothing else. -/
theorem find?_remove (s : Store α) (id k : Nat) :
    (s.remove id).find? k = if k = id then none else s.find? k :=
  lookup_filter_ne id k s.entries

/-- Removing nothing changes nothing. -/
theorem remove_of_not_contains {s : Store α} {id : Nat} (h : s.contains id = false) :
    s.remove id = s := by
  have habsent : s.entries.lookup id = none := by simpa [contains, find?] using h
  have hall : ∀ e ∈ s.entries, (e.1 != id) = true := by
    intro e he
    rw [bne_comm]
    exact List.lookup_eq_none_iff.mp habsent e he
  rw [remove, List.filter_eq_self.mpr hall]

/-- Adding a value changes what stands under the next number and nothing else. -/
theorem find?_add (s : Store α) (make : Nat → α) (k : Nat) :
    (s.add make).2.find? k =
      if k = s.lastId + 1 then some (make (s.lastId + 1)) else s.find? k :=
  lookup_putEntry (s.lastId + 1) k (make (s.lastId + 1)) s.entries

end Store

end RecurringBilling
