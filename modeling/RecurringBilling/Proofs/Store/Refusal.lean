import Mathlib.Data.List.Induction
import RecurringBilling.Proofs.Store.ActiveRows

/-!
# Refused writes

A store that starts empty and is written through its calls keeps its rows well formed.
It also keeps one active row for each user, but for one gap: a new subscription is
checked under the identifier that it brings along, so one that brings the identifier of
an active row of its own user is not compared with that row, and is then stored beside
it under a number of its own.  Calls that do not do that are refused exactly when they
would leave a user with two active rows.
-/

namespace RecurringBilling

open RecurringBilling.Calendar

namespace SubscriptionStore

/-- A write to the store. -/
inductive Call where
  | create (s : Subscription)
  | update (s : Subscription)
  | delete (id : SubscriptionId)
  deriving DecidableEq

namespace Call

/-- Whether the call goes through, and the store as it leaves it. -/
def apply (s : SubscriptionStore) : Call → Except Failure Unit × SubscriptionStore
  | .create c =>
    let (outcome, s') := SubscriptionStore.create s c
    (outcome.map fun _ => (), s')
  | .update c => SubscriptionStore.update s c
  | .delete id => SubscriptionStore.delete s id

/-- The store after the call, whatever its outcome. -/
def after (s : SubscriptionStore) (call : Call) : SubscriptionStore := (call.apply s).2

/-- The store that the call would leave if nobody looked at active subscriptions. -/
def unchecked (s : SubscriptionStore) : Call → SubscriptionStore
  | .create c => (s.add fun id => c.withId ⟨id⟩).2
  | .update c => if s.contains c.id.value then s.put c.id.value c else s
  | .delete id => s.remove id.value

/-- The call creates an active subscription that brings along the identifier of an active row of
its user. -/
def readds (s : SubscriptionStore) : Call → Bool
  | .create c => c.isActive && (findById s c.id).any fun x => x.user == c.user && x.isActive
  | _ => false

/-- The call is refused because of an active subscription. -/
def IsRefused (s : SubscriptionStore) (call : Call) : Prop :=
  ∃ f, (call.apply s).1 = .error f ∧ f.code = .activeSubscriptionExists

variable {s : SubscriptionStore}

theorem after_eq_of_apply {call : Call} {outcome : Except Failure Unit} {s' : SubscriptionStore}
    (h : call.apply s = (outcome, s')) : call.after s = s' := by
  rw [after, h]

/-! ### Each call -/

theorem apply_create (s : SubscriptionStore) (c : Subscription) :
    (Call.create c).apply s =
      if hasOtherActive s c then (.error (secondActive c.user), s)
      else (.ok (), (Call.create c).unchecked s) := by
  rw [apply, SubscriptionStore.create]
  cases hasOtherActive s c <;> rfl

theorem apply_update (s : SubscriptionStore) {c : Subscription}
    (hc : s.contains c.id.value = true) :
    (Call.update c).apply s =
      if hasOtherActive s c then (.error (secondActive c.user), s)
      else (.ok (), (Call.update c).unchecked s) := by
  rw [apply, SubscriptionStore.update, unchecked, hc]
  simp

theorem apply_update_of_not_contains {c : Subscription} (hc : s.contains c.id.value = false) :
    (Call.update c).apply s = (.error (notFound c.id), s) := by
  rw [apply, SubscriptionStore.update, hc]
  rfl

theorem apply_delete (s : SubscriptionStore) (id : SubscriptionId) :
    (Call.delete id).apply s =
      if s.contains id.value then (.ok (), (Call.delete id).unchecked s)
      else (.error (notFound id), s) := by
  rw [apply, SubscriptionStore.delete, unchecked]
  split
  · rfl
  · next hid => rw [Store.remove_of_not_contains (by simpa using hid)]

/-- A call that goes through leaves what it would leave unchecked. -/
theorem eq_unchecked_of_apply {call : Call} {s' : SubscriptionStore}
    (h : call.apply s = (.ok (), s')) : s' = call.unchecked s := by
  cases call with
  | create c =>
    rw [apply_create] at h
    split at h
    · cases h
    · cases h
      rfl
  | update c =>
    cases hc : s.contains c.id.value with
    | false =>
      rw [apply_update_of_not_contains hc] at h
      cases h
    | true =>
      rw [apply_update s hc] at h
      split at h
      · cases h
      · cases h
        rfl
  | delete id =>
    rw [apply_delete] at h
    split at h
    · cases h
      rfl
    · cases h

/-- A refused call leaves the store as it is. -/
theorem eq_of_apply_error {call : Call} {f : Failure} {s' : SubscriptionStore}
    (h : call.apply s = (.error f, s')) : s' = s := by
  cases call with
  | create c =>
    rw [apply] at h
    cases hcreate : SubscriptionStore.create s c with
    | mk outcome s'' =>
      rw [hcreate] at h
      cases outcome with
      | error f' =>
        cases h
        exact eq_of_create_error hcreate
      | ok x => cases h
  | update c => exact eq_of_update_error h
  | delete id => exact eq_of_delete_error h

theorem unchecked_update {c : Subscription} (hc : s.contains c.id.value = true) :
    (Call.update c).unchecked s = s.put c.id.value c := by
  rw [unchecked, if_pos hc]

/-- What the check of a new subscription does not see is exactly a row that the call readds. -/
theorem oneActive_unchecked_create_iff (h : WellFormed s) (hone : OneActive s)
    (c : Subscription) :
    OneActive ((Call.create c).unchecked s) ↔
      hasOtherActive s c = false ∧ (Call.create c).readds s = false := by
  have hwrite := h.oneActive_write_iff hone (h.add c) (Store.find?_add s fun id => c.withId ⟨id⟩)
  rw [unchecked, hwrite, h.hasOtherActive_eq_false_iff]
  constructor
  · intro hrows
    constructor
    · intro hactive k x hx _ huser
      -- the new row does not take the number of an old one
      have hk : k ≠ s.lastId + 1 := by
        have := h.ordered.issued_of_find? hx
        omega
      exact hrows hactive k x hx hk huser
    · cases hfound : findById s c.id with
      | none => simp [readds, hfound]
      | some x =>
        by_cases hactive : c.isActive = true
        · by_cases huser : x.user = c.user
          · have hk : c.id.value ≠ s.lastId + 1 := by
              have := h.ordered.issued_of_find? hfound
              omega
            have hinactive := hrows hactive c.id.value x hfound hk huser
            simp [readds, hfound, hinactive]
          · simp [readds, hfound, huser]
        · simp [readds, hactive]
  · rintro ⟨hothers, hnot⟩ hactive k x hx - huser
    -- the one row that the check leaves out is the one that would be readded
    by_cases hk : k = c.id.value
    · have hfound : findById s c.id = some x := by rw [findById, ← hk, hx]
      have huser' : x.user = c.user := huser
      have hactive' : c.isActive = true := hactive
      simpa [readds, hfound, hactive', huser'] using hnot
    · exact hothers hactive k x hx hk huser

/-- A readded row is the only active one of its user, so the check finds no other. -/
theorem hasOtherActive_of_readds (h : WellFormed s) (hone : OneActive s) {c : Subscription}
    (hreadds : (Call.create c).readds s = true) : hasOtherActive s c = false := by
  rw [readds, Bool.and_eq_true, Option.any_eq_true] at hreadds
  obtain ⟨-, x, hx, hrow⟩ := hreadds
  rw [Bool.and_eq_true, beq_iff_eq] at hrow
  rw [h.hasOtherActive_eq_false_iff]
  intro _ k y hy hk huser
  cases hyactive : y.isActive with
  | false => rfl
  | true =>
    have hsame := h.oneActive_iff.mp hone k c.id.value y x hy hx hyactive hrow.2
      (huser.trans hrow.1.symm)
    exact absurd hsame hk

theorem oneActive_unchecked_update_iff (h : WellFormed s) (hone : OneActive s)
    {c : Subscription} (hc : s.contains c.id.value = true) :
    OneActive ((Call.update c).unchecked s) ↔ hasOtherActive s c = false := by
  have hwrite := h.oneActive_write_iff hone (h.put hc) fun k => Store.find?_put s c.id.value k c
  rw [unchecked_update hc, hwrite, h.hasOtherActive_eq_false_iff]

/-! ### What every call preserves -/

/-- A call changes nothing, or leaves what it would leave unchecked. -/
theorem after_cases (s : SubscriptionStore) (call : Call) :
    call.after s = s ∨ call.after s = call.unchecked s := by
  cases happly : call.apply s with
  | mk outcome s' =>
    rw [after_eq_of_apply happly]
    cases outcome with
    | error f => exact Or.inl (eq_of_apply_error happly)
    | ok => exact Or.inr (eq_unchecked_of_apply happly)

theorem wellFormed_unchecked (h : WellFormed s) (call : Call) : WellFormed (call.unchecked s) := by
  cases call with
  | create c => exact h.add c
  | update c =>
    rw [unchecked]
    split
    · next hc => exact h.put hc
    · exact h
  | delete id => exact h.remove id.value

theorem wellFormed_after (h : WellFormed s) (call : Call) : WellFormed (call.after s) := by
  rcases after_cases s call with hsame | hunchecked
  · rw [hsame]
    exact h
  · rw [hunchecked]
    exact wellFormed_unchecked h call

theorem oneActive_after_create_iff (h : WellFormed s) (hone : OneActive s) (c : Subscription) :
    OneActive ((Call.create c).after s) ↔ (Call.create c).readds s = false := by
  have happly := apply_create s c
  cases hother : hasOtherActive s c with
  | true =>
    -- a refused call is not one that readds a row, for those pass the check
    rw [hother, if_pos rfl] at happly
    rw [after_eq_of_apply happly]
    refine ⟨fun _ => ?_, fun _ => hone⟩
    cases hreadds : (Call.create c).readds s with
    | false => rfl
    | true =>
      rw [hasOtherActive_of_readds h hone hreadds] at hother
      cases hother
  | false =>
    rw [hother, if_neg Bool.false_ne_true] at happly
    rw [after_eq_of_apply happly, oneActive_unchecked_create_iff h hone c, hother]
    simp

theorem oneActive_after_update (h : WellFormed s) (hone : OneActive s) (c : Subscription) :
    OneActive ((Call.update c).after s) := by
  cases hc : s.contains c.id.value with
  | false =>
    rw [after_eq_of_apply (apply_update_of_not_contains hc)]
    exact hone
  | true =>
    have happly := apply_update s hc
    cases hother : hasOtherActive s c with
    | true =>
      rw [hother, if_pos rfl] at happly
      rw [after_eq_of_apply happly]
      exact hone
    | false =>
      rw [hother, if_neg Bool.false_ne_true] at happly
      rw [after_eq_of_apply happly]
      exact (oneActive_unchecked_update_iff h hone hc).mpr hother

theorem oneActive_after_delete (h : WellFormed s) (hone : OneActive s) (id : SubscriptionId) :
    OneActive ((Call.delete id).after s) := by
  rcases after_cases s (.delete id) with hsame | hunchecked
  · rw [hsame]
    exact hone
  · rw [hunchecked]
    exact h.oneActive_remove hone id.value

/-- A call that does not readd a row keeps one active row for each user, and one that does breaks
it. -/
theorem oneActive_after_iff (h : WellFormed s) (hone : OneActive s) (call : Call) :
    OneActive (call.after s) ↔ call.readds s = false := by
  cases call with
  | create c => exact oneActive_after_create_iff h hone c
  | update c => exact ⟨fun _ => rfl, fun _ => oneActive_after_update h hone c⟩
  | delete id => exact ⟨fun _ => rfl, fun _ => oneActive_after_delete h hone id⟩

/-- A new row that brings no identifier along readds nothing, as no row answers to the number 0. -/
theorem not_readds_of_unassigned (h : WellFormed s) {c : Subscription}
    (hid : c.id = .unassigned) : (Call.create c).readds s = false := by
  have hnone : findById s c.id = none := by
    rw [hid, findById, Option.eq_none_iff_forall_ne_some]
    intro x hx
    exact absurd (h.ordered.issued_of_find? hx).1 (by decide)
  simp [readds, hnone]

/-- After a call a row is one from before, or the one that the call has written. -/
theorem find?_after_cases {call : Call} {k : Nat} {x : Subscription}
    (h : (call.after s).find? k = some x) :
    s.find? k = some x ∨ (∃ c id, call = .create c ∧ x = c.withId id) ∨ call = .update x := by
  rcases after_cases s call with hsame | hunchecked
  · rw [hsame] at h
    exact Or.inl h
  · rw [hunchecked] at h
    cases call with
    | create c =>
      rw [unchecked, Store.find?_add] at h
      split at h
      · cases h
        exact Or.inr (Or.inl ⟨c, _, rfl, rfl⟩)
      · exact Or.inl h
    | update c =>
      rw [unchecked] at h
      split at h
      · rw [Store.find?_put] at h
        split at h
        · cases h
          exact Or.inr (Or.inr rfl)
        · exact Or.inl h
      · exact Or.inl h
    | delete id =>
      rw [unchecked, Store.find?_remove] at h
      split at h
      · cases h
      · exact Or.inl h

/-- Of the calls that would leave a user with two active rows, those that do not readd a row are
refused. -/
theorem isRefused_iff (h : WellFormed s) (hone : OneActive s) {call : Call}
    (hbad : ¬OneActive (call.unchecked s)) :
    (call.IsRefused s ∧ call.after s = s) ↔ call.readds s = false := by
  cases call with
  | create c =>
    have happly := apply_create s c
    cases hother : hasOtherActive s c with
    | true =>
      rw [hother, if_pos rfl] at happly
      have hreadds : (Call.create c).readds s = false := by
        rw [← oneActive_after_iff h hone, after_eq_of_apply happly]
        exact hone
      exact ⟨fun _ => hreadds,
        fun _ => ⟨⟨_, congrArg Prod.fst happly, rfl⟩, after_eq_of_apply happly⟩⟩
    | false =>
      rw [hother, if_neg Bool.false_ne_true] at happly
      rw [oneActive_unchecked_create_iff h hone c, hother] at hbad
      constructor
      · rintro ⟨⟨f, hrefused, -⟩, -⟩
        rw [happly] at hrefused
        cases hrefused
      · intro hreadds
        exact absurd ⟨rfl, hreadds⟩ hbad
  | update c =>
    refine ⟨fun _ => rfl, fun _ => ?_⟩
    cases hc : s.contains c.id.value with
    | false =>
      rw [unchecked, hc] at hbad
      exact absurd hone hbad
    | true =>
      have hother : hasOtherActive s c = true := by
        rw [oneActive_unchecked_update_iff h hone hc] at hbad
        simpa using hbad
      have happly := apply_update s hc
      rw [hother, if_pos rfl] at happly
      exact ⟨⟨_, congrArg Prod.fst happly, rfl⟩, after_eq_of_apply happly⟩
  | delete id => exact absurd (h.oneActive_remove hone id.value) hbad

end Call

/-! ## Histories of calls -/

/-- The store after calls on an empty one. -/
def run (calls : List Call) : SubscriptionStore := calls.foldl (fun s call => call.after s) {}

@[simp]
theorem run_concat (calls : List Call) (call : Call) :
    run (calls ++ [call]) = call.after (run calls) := by
  simp [run, List.foldl_append]

theorem wellFormed_run (calls : List Call) : WellFormed (run calls) := by
  induction calls using List.reverseRecOn with
  | nil => exact wellFormed_empty
  | append_singleton calls call ih =>
    rw [run_concat]
    exact Call.wellFormed_after ih call

theorem oneActive_run_concat_iff {calls : List Call} (hone : OneActive (run calls)) (call : Call) :
    OneActive (run (calls ++ [call])) ↔ call.readds (run calls) = false := by
  rw [run_concat]
  exact Call.oneActive_after_iff (wellFormed_run calls) hone call

/-- Throughout a history each user has at most one active row exactly if no call readds a row; and
where each user has at most one, a call that would leave a user with two is refused,
and changes nothing, exactly if it does not readd a row. -/
theorem oneActive_throughout_iff (calls : List Call) :
    ((∀ before later, calls = before ++ later → OneActive (run before)) ↔
      ∀ before call later, calls = before ++ call :: later → call.readds (run before) = false) ∧
    (OneActive (run calls) → ∀ call : Call, ¬OneActive (call.unchecked (run calls)) →
      ((call.IsRefused (run calls) ∧ call.after (run calls) = run calls) ↔
        call.readds (run calls) = false)) := by
  refine ⟨⟨?_, ?_⟩, ?_⟩
  · intro hthroughout before call later hcalls
    have hbefore : OneActive (run before) := hthroughout before (call :: later) hcalls
    have hafter : OneActive (run (before ++ [call])) :=
      hthroughout (before ++ [call]) later (by rw [hcalls, List.append_assoc]; rfl)
    exact (oneActive_run_concat_iff hbefore call).mp hafter
  · intro hnone before
    -- a prefix of a history is a shorter history with one more call
    induction before using List.reverseRecOn with
    | nil =>
      intro later _ user
      exact Nat.zero_le 1
    | append_singleton before call ih =>
      intro later hcalls
      have hcalls' : calls = before ++ call :: later := by
        rw [hcalls, List.append_assoc]
        rfl
      exact (oneActive_run_concat_iff (ih _ hcalls') call).mpr (hnone before call later hcalls')
  · intro hone call hbad
    exact Call.isRefused_iff (wellFormed_run calls) hone hbad

/-- An active subscription of a user, as it is before it is stored. -/
def freshActive (user : UserId) : Subscription where
  id := .unassigned
  user := user
  plan := ⟨1⟩
  status := .active
  startDate := .epoch
  endDate := none
  autoRenew := true
  createdAt := .epoch
  updatedAt := .epoch

/-- Storing the first row of a user again, as it was stored, gives the user a second active row. -/
theorem two_active_of_readded_row :
    ¬∀ calls : List Call, OneActive (run calls) := by
  intro hall
  have htwo : (activeOf (run [.create (freshActive ⟨7⟩),
      .create ((freshActive ⟨7⟩).withId ⟨1⟩)]) ⟨7⟩).length = 2 := by decide
  have hone := hall [.create (freshActive ⟨7⟩), .create ((freshActive ⟨7⟩).withId ⟨1⟩)] ⟨7⟩
  omega

end SubscriptionStore

end RecurringBilling
