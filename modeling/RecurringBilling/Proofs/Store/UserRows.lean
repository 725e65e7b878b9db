import Mathlib.Data.List.Sort
import RecurringBilling.Proofs.Store.FiniteMaps

/-!
# The rows of one user

What a store tells about a user it reads off the rows of that user.  Two stores with the same
rows of a user list the same subscriptions, find the same active one and refuse the same
writes for that user, whatever else stands in them and whichever number comes next.
-/

namespace RecurringBilling

namespace SubscriptionStore

/-- Under every number the same rows of the user. -/
def SameRows (user : UserId) (s s' : SubscriptionStore) : Prop :=
  ∀ k x, x.user = user → (s.find? k = some x ↔ s'.find? k = some x)

variable {s s' : SubscriptionStore} {user : UserId}

theorem SameRows.refl (user : UserId) (s : SubscriptionStore) : SameRows user s s :=
  fun _ _ _ => Iff.rfl

theorem SameRows.trans {s'' : SubscriptionStore} (h : SameRows user s s')
    (h' : SameRows user s' s'') : SameRows user s s'' :=
  fun k x hx => (h k x hx).trans (h' k x hx)

/-! ## What is read off them -/

theorem WellFormed.mem_findByUser_iff (h : WellFormed s) {x : Subscription} :
    x ∈ findByUser s user ↔ (∃ k, s.find? k = some x) ∧ x.user = user := by
  rw [findByUser, List.mem_filter, h.ordered.mem_values_iff, beq_iff_eq]

theorem WellFormed.sorted_findByUser (h : WellFormed s) (user : UserId) :
    (findByUser s user).Pairwise fun x y => x.id.value < y.id.value :=
  h.sorted_values.filter _

/-- The same rows of a user are listed in the same order, that of their identifiers. -/
theorem SameRows.findByUser_eq (hrows : SameRows user s s') (h : WellFormed s)
    (h' : WellFormed s') : findByUser s' user = findByUser s user := by
  have : Std.Irrefl fun x y : Subscription => x.id.value < y.id.value :=
    ⟨fun x => Nat.lt_irrefl x.id.value⟩
  have : Std.Antisymm fun x y : Subscription => x.id.value < y.id.value :=
    ⟨fun x y hxy hyx => absurd hyx (Nat.lt_asymm hxy)⟩
  refine (h'.sorted_findByUser user).eq_of_mem_iff (h.sorted_findByUser user) fun x => ?_
  rw [h.mem_findByUser_iff, h'.mem_findByUser_iff]
  refine and_congr_left fun huser => exists_congr fun k => ?_
  exact (hrows k x huser).symm

theorem SameRows.findActiveByUser_eq (hrows : SameRows user s s') (h : WellFormed s)
    (h' : WellFormed s') : findActiveByUser s' user = findActiveByUser s user := by
  rw [SubscriptionStore.findActiveByUser_eq, SubscriptionStore.findActiveByUser_eq,
    hrows.findByUser_eq h h']

/-- The check before a write looks at the rows of the user only. -/
theorem hasOtherActive_eq_any (s : SubscriptionStore) (c : Subscription) :
    hasOtherActive s c =
      (c.isActive && (findByUser s c.user).any fun x => x.id != c.id && x.isActive) := by
  rw [hasOtherActive, findByUser, List.any_filter]
  congr 2
  funext x
  cases x.id != c.id <;> cases x.user == c.user <;> rfl

theorem SameRows.hasOtherActive_eq (hrows : SameRows user s s') (h : WellFormed s)
    (h' : WellFormed s') {c : Subscription} (hc : c.user = user) :
    hasOtherActive s' c = hasOtherActive s c := by
  rw [hasOtherActive_eq_any, hasOtherActive_eq_any, hc, hrows.findByUser_eq h h']

/-! ## What is written for that user -/

/-- A new row of the user is refused in both stores, or in neither. -/
theorem SameRows.create_cases (hrows : SameRows user s s') (h : WellFormed s)
    (h' : WellFormed s') {c : Subscription} (hc : c.user = user) :
    create s c = (.error (secondActive user), s) ∧
        create s' c = (.error (secondActive user), s') ∨
      create s c = (.ok (c.withId ⟨s.lastId + 1⟩), (s.add fun id => c.withId ⟨id⟩).2) ∧
        create s' c = (.ok (c.withId ⟨s'.lastId + 1⟩), (s'.add fun id => c.withId ⟨id⟩).2) := by
  rw [create, create, hrows.hasOtherActive_eq h h' hc, hc]
  cases hasOtherActive s c with
  | true => exact Or.inl ⟨rfl, rfl⟩
  | false => exact Or.inr ⟨rfl, rfl⟩

/-- A row of the user is replaced in both stores, or in neither. -/
theorem SameRows.update_cases (hrows : SameRows user s s') (h : WellFormed s)
    (h' : WellFormed s') {c x : Subscription} (hc : c.user = user)
    (hx : s.find? c.id.value = some x) (hxuser : x.user = user) :
    update s c = (.error (secondActive user), s) ∧
        update s' c = (.error (secondActive user), s') ∨
      update s c = (.ok (), s.put c.id.value c) ∧
        update s' c = (.ok (), s'.put c.id.value c) := by
  have hx' := (hrows c.id.value x hxuser).mp hx
  rw [update, update, Store.contains, Store.contains, hx, hx',
    hrows.hasOtherActive_eq h h' hc, hc]
  cases hasOtherActive s c with
  | true => exact Or.inl ⟨rfl, rfl⟩
  | false => exact Or.inr ⟨rfl, rfl⟩

end SubscriptionStore

end RecurringBilling
