import RecurringBilling.Proofs.Store.Order
import RecurringBilling.Store.Subscriptions

/-!
# Active rows

In a store of subscriptions whose rows carry the numbers they stand under, the check
before a write compares rows by their numbers.  What one written row does to the number
of active rows of a user is therefore decided by the other rows.
-/

namespace RecurringBilling

namespace SubscriptionStore

/-- The numbers are in order, and each row carries its own as identifier. -/
structure WellFormed (s : SubscriptionStore) : Prop where
  ordered : s.Ordered
  named : ∀ k x, s.find? k = some x → x.id = ⟨k⟩

/-- The active subscriptions of a user. -/
def activeOf (s : SubscriptionStore) (user : UserId) : List Subscription :=
  s.values.filter fun x => x.user == user && x.isActive

/-- No user has two active subscriptions. -/
def OneActive (s : SubscriptionStore) : Prop := ∀ user, (activeOf s user).length ≤ 1

variable {s : SubscriptionStore}

theorem mem_activeOf_iff (h : WellFormed s) {user : UserId} {x : Subscription} :
    x ∈ activeOf s user ↔ ∃ k, s.find? k = some x ∧ x.user = user ∧ x.isActive = true := by
  rw [activeOf, List.mem_filter, h.ordered.mem_values_iff]
  simp

/-- The values stand in the order of their identifiers. -/
theorem WellFormed.sorted_values (h : WellFormed s) :
    s.values.Pairwise fun x y => x.id.value < y.id.value :=
  h.ordered.sorted_values fun k x hx => congrArg SubscriptionId.value (h.named k x hx)

/-- Number by number: active rows of one user stand under one number. -/
theorem WellFormed.oneActive_iff (h : WellFormed s) :
    OneActive s ↔ ∀ j k x y, s.find? j = some x → s.find? k = some y → x.isActive = true →
      y.isActive = true → x.user = y.user → j = k := by
  constructor
  · intro hone j k x y hx hy hxactive hyactive huser
    have hxmem : x ∈ activeOf s y.user := (mem_activeOf_iff h).mpr ⟨j, hx, huser, hxactive⟩
    have hymem : y ∈ activeOf s y.user := (mem_activeOf_iff h).mpr ⟨k, hy, rfl, hyactive⟩
    -- both stand in a list of one at most, so they are the same row
    obtain ⟨i, hi, hxi⟩ := List.getElem_of_mem hxmem
    obtain ⟨l, hl, hyl⟩ := List.getElem_of_mem hymem
    have hlength := hone y.user
    have hil : i = l := by omega
    subst hil
    have hxy : x = y := hxi.symm.trans hyl
    have hid := (h.named j x hx).symm.trans (hxy ▸ h.named k y hy)
    exact congrArg SubscriptionId.value hid
  · intro hkeys user
    have hsorted := h.sorted_values.filter fun x => x.user == user && x.isActive
    match hactive : activeOf s user with
    | [] => exact Nat.zero_le 1
    | [x] => exact Nat.le_refl 1
    | x :: y :: rest =>
      -- two active rows of the user would have one number, but the numbers increase
      obtain ⟨j, hx, hxuser, hxactive⟩ := (mem_activeOf_iff h).mp
        (show x ∈ activeOf s user by rw [hactive]; exact List.mem_cons_self)
      obtain ⟨k, hy, hyuser, hyactive⟩ := (mem_activeOf_iff h).mp
        (show y ∈ activeOf s user by
          rw [hactive]; exact List.mem_cons_of_mem x List.mem_cons_self)
      have hjk := hkeys j k x y hx hy hxactive hyactive (hxuser.trans hyuser.symm)
      have hlt : x.id.value < y.id.value := by
        rw [activeOf] at hactive
        rw [hactive] at hsorted
        exact (List.pairwise_cons.mp hsorted).1 y List.mem_cons_self
      rw [h.named j x hx, h.named k y hy, hjk] at hlt
      exact absurd hlt (Nat.lt_irrefl k)

/-! ## The check before a write -/

theorem WellFormed.hasOtherActive_eq_false_iff (h : WellFormed s) (c : Subscription) :
    hasOtherActive s c = false ↔ (c.isActive = true → ∀ k x, s.find? k = some x →
      k ≠ c.id.value → x.user = c.user → x.isActive = false) := by
  constructor
  · intro hcheck hactive k x hx hk huser
    have hmem : x ∈ s.values := h.ordered.mem_values_iff.mpr ⟨k, hx⟩
    have hid : x.id ≠ c.id := by
      -- rows carry their numbers, so equal identifiers are equal numbers
      intro heq
      rw [h.named k x hx] at heq
      exact hk (congrArg SubscriptionId.value heq)
    rw [hasOtherActive, hactive, Bool.true_and, List.any_eq_false] at hcheck
    simpa [hid, huser] using hcheck x hmem
  · intro hrows
    cases hactive : c.isActive with
    | false => simp [hasOtherActive, hactive]
    | true =>
      rw [hasOtherActive, hactive, Bool.true_and, List.any_eq_false]
      intro x hmem
      obtain ⟨k, hx⟩ := h.ordered.mem_values_iff.mp hmem
      by_cases hk : k = c.id.value
      · have hid : x.id = c.id := by rw [h.named k x hx, hk]
        simp [hid]
      · by_cases huser : x.user = c.user
        · simp [huser, hrows hactive k x hx hk huser]
        · simp [huser]

/-! ## Writing one row -/

theorem wellFormed_empty : WellFormed {} where
  ordered := Store.ordered_empty
  named := by
    intro k x hx
    simp [Store.find?] at hx

theorem WellFormed.put (h : WellFormed s) {c : Subscription}
    (hc : s.contains c.id.value = true) : WellFormed (s.put c.id.value c) where
  ordered := h.ordered.put hc c
  named := by
    intro k x hx
    rw [Store.find?_put] at hx
    split at hx
    · next heq =>
      cases hx
      rw [heq]
    · exact h.named k x hx

theorem WellFormed.add (h : WellFormed s) (c : Subscription) :
    WellFormed (s.add fun id => c.withId ⟨id⟩).2 where
  ordered := h.ordered.add _
  named := by
    intro k x hx
    rw [Store.find?_add] at hx
    split at hx
    · next heq =>
      cases hx
      rw [heq]
      rfl
    · exact h.named k x hx

theorem WellFormed.remove (h : WellFormed s) (id : Nat) : WellFormed (s.remove id) where
  ordered := h.ordered.remove id
  named := by
    intro k x hx
    rw [Store.find?_remove] at hx
    split at hx
    · cases hx
    · exact h.named k x hx

/-- One written row leaves every user with one active row exactly when the other rows
of its user are not active, or itself is not. -/
theorem WellFormed.oneActive_write_iff (h : WellFormed s) (hone : OneActive s)
    {s' : SubscriptionStore} (h' : WellFormed s') {n : Nat} {y : Subscription}
    (hwrite : ∀ k, s'.find? k = if k = n then some y else s.find? k) :
    OneActive s' ↔ (y.isActive = true → ∀ k x, s.find? k = some x → k ≠ n → x.user = y.user →
      x.isActive = false) := by
  rw [h'.oneActive_iff]
  have hold := h.oneActive_iff.mp hone
  have hnew : s'.find? n = some y := by rw [hwrite, if_pos rfl]
  constructor
  · intro hkeys hy k x hx hk huser
    have hx' : s'.find? k = some x := by rw [hwrite, if_neg hk, hx]
    cases hxactive : x.isActive with
    | false => rfl
    | true => exact absurd (hkeys k n x y hx' hnew hxactive hy huser) hk
  · intro hrows j k a b ha hb haactive hbactive huser
    rw [hwrite] at ha hb
    -- the written row is one of the two, or both are rows from before
    by_cases hj : j = n
    · by_cases hk : k = n
      · rw [hj, hk]
      · rw [if_pos hj] at ha
        rw [if_neg hk] at hb
        cases ha
        have := hrows haactive k b hb hk huser.symm
        simp [hbactive] at this
    · rw [if_neg hj] at ha
      by_cases hk : k = n
      · rw [if_pos hk] at hb
        cases hb
        have := hrows hbactive j a ha hj huser
        simp [haactive] at this
      · rw [if_neg hk] at hb
        exact hold j k a b ha hb haactive hbactive huser

theorem WellFormed.oneActive_remove (h : WellFormed s) (hone : OneActive s) (id : Nat) :
    OneActive (s.remove id) := by
  rw [(h.remove id).oneActive_iff]
  intro j k x y hx hy
  rw [Store.find?_remove] at hx hy
  split at hx
  · cases hx
  · split at hy
    · cases hy
    · exact h.oneActive_iff.mp hone j k x y hx hy

/-! ## The active rows of one user -/

/-- A new row counts for its own user, and only if it is active. -/
theorem WellFormed.activeOf_add (h : WellFormed s) (c : Subscription) (user : UserId) :
    activeOf (s.add fun id => c.withId ⟨id⟩).2 user =
      activeOf s user ++
        if c.user == user && c.isActive then [c.withId ⟨s.lastId + 1⟩] else [] := by
  rw [activeOf, h.ordered.values_add, List.filter_append]
  congr 1
  rw [List.filter_cons, List.filter_nil]
  rfl

/-- Replacing a row of another user by a row of another user does not count. -/
theorem WellFormed.activeOf_put_of_ne (h : WellFormed s) {n : Nat} {x y : Subscription}
    {user : UserId} (hx : s.find? n = some x) (hxuser : x.user ≠ user) (hyuser : y.user ≠ user) :
    activeOf (s.put n y) user = activeOf s user := by
  have hfilter : (Store.putEntry n y s.entries).filter
      (fun e => e.2.user == user && e.2.isActive) =
        s.entries.filter fun e => e.2.user == user && e.2.isActive := by
    refine Store.filter_putEntry (by simp [hyuser]) ?_
    intro e he hkey
    obtain ⟨k, b⟩ := e
    have hfind := h.ordered.mem_entries_iff.mp he
    have hk : k = n := hkey
    rw [hk, hx] at hfind
    cases hfind
    simp [hxuser]
  have hmap : ∀ entries : List (Nat × Subscription),
      (entries.map Prod.snd).filter (fun x => x.user == user && x.isActive) =
        (entries.filter fun e => e.2.user == user && e.2.isActive).map Prod.snd := by
    intro entries
    rw [List.filter_map]
    rfl
  rw [activeOf, activeOf, Store.values, Store.values, hmap, hmap]
  exact congrArg (List.map Prod.snd) hfilter

/-- For an active candidate without identifier the check looks at every row. -/
theorem WellFormed.hasOtherActive_of_unassigned (h : WellFormed s) {c : Subscription}
    (hid : c.id = .unassigned) (hactive : c.isActive = true) :
    hasOtherActive s c = false ↔ activeOf s c.user = [] := by
  rw [h.hasOtherActive_eq_false_iff, List.eq_nil_iff_forall_not_mem]
  constructor
  · intro hrows x hx
    obtain ⟨k, hfind, huser, hxactive⟩ := (mem_activeOf_iff h).mp hx
    have hk : k ≠ c.id.value := by
      have hissued := h.ordered.issued_of_find? hfind
      rw [hid]
      show k ≠ 0
      omega
    rw [hrows hactive k x hfind hk huser] at hxactive
    cases hxactive
  · intro hnone _ k x hfind _ huser
    cases hxactive : x.isActive with
    | false => rfl
    | true => exact absurd ((mem_activeOf_iff h).mpr ⟨k, hfind, huser, hxactive⟩) (hnone x)

/-- The look-up finds nothing exactly if the user has no active row. -/
theorem findActiveByUser_eq_none_iff {user : UserId} :
    findActiveByUser s user = none ↔ activeOf s user = [] := by
  rw [findActiveByUser, activeOf, List.find?_eq_none, List.filter_eq_nil_iff]

/-- A new active row of a user without one is stored. -/
theorem WellFormed.create_of_free (h : WellFormed s) {c : Subscription} (hid : c.id = .unassigned)
    (hactive : c.isActive = true) (hfree : findActiveByUser s c.user = none) :
    create s c = (.ok (c.withId ⟨s.lastId + 1⟩), (s.add fun id => c.withId ⟨id⟩).2) := by
  have hnone := findActiveByUser_eq_none_iff.mp hfree
  rw [create, (h.hasOtherActive_of_unassigned hid hactive).mpr hnone]
  rfl

/-- An active row is replaced by another row of its user, as it is the only active one. -/
theorem WellFormed.update_of_active (h : WellFormed s) (hone : OneActive s) {c x : Subscription}
    (hx : s.find? c.id.value = some x) (hactive : x.isActive = true) (huser : c.user = x.user) :
    update s c = (.ok (), s.put c.id.value c) := by
  have hcheck : hasOtherActive s c = false := by
    rw [h.hasOtherActive_eq_false_iff]
    intro _ k y hy hk hyuser
    cases hyactive : y.isActive with
    | false => rfl
    | true =>
      have hsame := h.oneActive_iff.mp hone k c.id.value y x hy hx hyactive hactive
        (hyuser.trans huser)
      exact absurd hsame hk
  rw [update, Store.contains, hx, hcheck]
  rfl

end SubscriptionStore

end RecurringBilling
