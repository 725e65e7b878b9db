import RecurringBilling.Billing.Overview
import RecurringBilling.Proofs.Store.Journal
import RecurringBilling.Proofs.Store.Refusal
import RecurringBilling.Store.Plans

/-!
# Stores as finite maps

A store of plans or of subscriptions that starts empty is the finite map which the journal
of its calls tells: under each identifier stands what was written there last, unless it
has been deleted since, and every query reads that map.  New values get the identifiers
1, 2, 3, … whatever identifiers they bring along, whatever has been deleted and whatever
has been refused.
-/

namespace RecurringBilling

namespace Store

/-- The store is the finite map of a journal whose values carry the numbers they are written
under. -/
structure IsMapOf {α : Type} (number : α → Nat) (j : Journal α) (s : Store α) : Prop where
  recorded : Recorded j s
  number_eq : ∀ k a, j.standing? k = some a → number a = k

namespace IsMapOf

variable {α κ : Type} {number : α → Nat} {j : Journal α} {s : Store α}

/-- Faithful calls keep the store in step with the journal. -/
theorem of_history {apply : Store α → κ → Except Failure (Write α) × Store α}
    (h : Faithful apply number) (calls : List κ) :
    IsMapOf number (history apply calls).1 (history apply calls).2 where
  recorded := h.recorded_history calls
  number_eq _ _ := h.number_of_standing? calls

theorem find?_eq (h : IsMapOf number j s) (k : Nat) : s.find? k = j.standing? k :=
  h.recorded.find?_eq k

theorem contains_eq (h : IsMapOf number j s) (k : Nat) :
    s.contains k = (j.standing? k).isSome := by
  rw [contains, h.find?_eq]

theorem mem_values_iff (h : IsMapOf number j s) {a : α} :
    a ∈ s.values ↔ ∃ k, j.standing? k = some a := by
  simp only [h.recorded.ordered.mem_values_iff, h.find?_eq]

theorem sorted_values (h : IsMapOf number j s) :
    s.values.Pairwise fun a b => number a < number b := by
  refine h.recorded.ordered.sorted_values fun k a ha => h.number_eq k a ?_
  rw [← h.find?_eq, ha]

end IsMapOf

end Store

/-! ## Plans -/

namespace PlanStore

/-- A call that writes plans. -/
inductive Call where
  | create (p : Plan)
  | update (p : Plan)
  | delete (id : PlanId)
  deriving DecidableEq

/-- What the call has written, or why it is refused, and the store as it leaves it. -/
def Call.apply (s : PlanStore) : Call → Except Failure (Store.Write Plan) × PlanStore
  | .create p => Store.told (PlanStore.create s p) fun x => .added x.id.value x
  | .update p => Store.told (PlanStore.update s p) fun () => .replaced p.id.value p
  | .delete id => Store.told (PlanStore.delete s id) fun () => .removed id.value

/-- The writes of a history that starts with an empty store. -/
def journal (calls : List Call) : Store.Journal Plan := (Store.history Call.apply calls).1

/-- The store after a history that starts with an empty one. -/
def run (calls : List Call) : PlanStore := (Store.history Call.apply calls).2

variable {s : PlanStore}

namespace Call

theorem apply_create (s : PlanStore) (p : Plan) :
    (create p).apply s =
      (.ok (.added (s.lastId + 1) (p.withId ⟨s.lastId + 1⟩)), (PlanStore.create s p).2) := rfl

theorem apply_update {p : Plan} (h : s.contains p.id.value = true) :
    (update p).apply s = (.ok (.replaced p.id.value p), s.put p.id.value p) := by
  rw [apply, PlanStore.update, h]
  rfl

theorem apply_delete {id : PlanId} (h : s.contains id.value = true) :
    (delete id).apply s = (.ok (.removed id.value), s.remove id.value) := by
  rw [apply, PlanStore.delete, h]
  rfl

theorem contains_of_update {p : Plan} {s' : PlanStore}
    (h : PlanStore.update s p = (.ok (), s')) : s.contains p.id.value = true := by
  unfold PlanStore.update at h
  split at h
  · next hthere => exact hthere
  · cases h

theorem contains_of_delete {id : PlanId} {s' : PlanStore}
    (h : PlanStore.delete s id = (.ok (), s')) : s.contains id.value = true := by
  unfold PlanStore.delete at h
  split at h
  · next hthere => exact hthere
  · cases h

/-- A call that goes through writes what it tells, under the number that the value carries. -/
theorem writes_of_apply {call : Call} {w : Store.Write Plan} {s' : PlanStore}
    (h : call.apply s = (.ok w, s')) :
    w.Leads s s' ∧ ∀ p, w.value? = some p → p.id.value = w.id := by
  cases call with
  | create p =>
    rw [apply_create] at h
    cases h
    refine ⟨⟨rfl, rfl⟩, fun x hx => ?_⟩
    cases hx
    rfl
  | update p =>
    obtain ⟨_, hupdate, -⟩ := Store.told_eq_ok_iff.mp h
    have hthere := contains_of_update hupdate
    rw [apply_update hthere] at h
    cases h
    refine ⟨⟨hthere, rfl⟩, fun x hx => ?_⟩
    cases hx
    rfl
  | delete id =>
    obtain ⟨_, hdelete, -⟩ := Store.told_eq_ok_iff.mp h
    have hthere := contains_of_delete hdelete
    rw [apply_delete hthere] at h
    cases h
    exact ⟨⟨hthere, rfl⟩, fun x hx => nomatch hx⟩

/-- A refused call leaves the store as it is. -/
theorem eq_of_apply_error {call : Call} {f : Failure} {s' : PlanStore}
    (h : call.apply s = (.error f, s')) : s' = s := by
  cases call with
  | create p => exact absurd (Store.told_eq_error_iff.mp h) create_ne_error
  | update p => exact eq_of_update_error (Store.told_eq_error_iff.mp h)
  | delete id => exact eq_of_delete_error (Store.told_eq_error_iff.mp h)

theorem faithful : Store.Faithful apply fun p => p.id.value where
  leads h := (writes_of_apply h).1
  numbered h := (writes_of_apply h).2
  refuses := eq_of_apply_error

end Call

theorem isMapOf_run (calls : List Call) :
    Store.IsMapOf (fun p => p.id.value) (journal calls) (run calls) :=
  .of_history Call.faithful calls

theorem not_contains_iff (calls : List Call) (id : PlanId) :
    (run calls).contains id.value = false ↔ (journal calls).standing? id.value = none := by
  rw [(isMapOf_run calls).contains_eq, Option.isSome_eq_false_iff, Option.isNone_iff_eq_none]

theorem concat_of_ok {calls : List Call} {call : Call} {w : Store.Write Plan}
    (h : call.apply (run calls) = (.ok w, s)) :
    run (calls ++ [call]) = s ∧ journal (calls ++ [call]) = journal calls ++ [w] := by
  rw [run, journal, Store.history_concat_of_ok h]
  exact ⟨rfl, rfl⟩

theorem concat_of_error {calls : List Call} {call : Call} {f : Failure}
    (h : call.apply (run calls) = (.error f, s)) :
    s = run calls ∧ run (calls ++ [call]) = run calls ∧
      journal (calls ++ [call]) = journal calls := by
  have hsame := Call.faithful.history_concat_of_error h
  exact ⟨Call.eq_of_apply_error h, congrArg Prod.snd hsame, congrArg Prod.fst hsame⟩

/-- The next plan gets the next identifier. -/
theorem create_run (calls : List Call) (p : Plan) :
    create (run calls) p =
        (.ok (p.withId ⟨(journal calls).additions + 1⟩), run (calls ++ [Call.create p])) ∧
      journal (calls ++ [Call.create p]) = journal calls ++
        [Store.Write.added ((journal calls).additions + 1)
          (p.withId ⟨(journal calls).additions + 1⟩)] := by
  obtain ⟨hrun, hjournal⟩ := concat_of_ok (Call.apply_create (run calls) p)
  rw [hrun, hjournal, ← (isMapOf_run calls).recorded.lastId_eq]
  exact ⟨rfl, rfl⟩

/-- A plan is replaced exactly if one has its identifier. -/
theorem update_run (calls : List Call) (p : Plan) :
    ((journal calls).standing? p.id.value = none →
      update (run calls) p = (.error (notFound p.id), run calls)) ∧
    ((journal calls).standing? p.id.value ≠ none →
      update (run calls) p = (.ok (), run (calls ++ [Call.update p])) ∧
        journal (calls ++ [Call.update p]) =
          journal calls ++ [Store.Write.replaced p.id.value p]) := by
  rw [ne_eq, ← not_contains_iff, Bool.not_eq_false]
  constructor
  · intro hmissing
    rw [update, hmissing]
    rfl
  · intro hthere
    obtain ⟨hrun, hjournal⟩ := concat_of_ok (Call.apply_update hthere)
    rw [hrun, hjournal, update, hthere]
    exact ⟨rfl, rfl⟩

/-- A plan is removed exactly if there is one. -/
theorem delete_run (calls : List Call) (id : PlanId) :
    ((journal calls).standing? id.value = none →
      delete (run calls) id = (.error (notFound id), run calls)) ∧
    ((journal calls).standing? id.value ≠ none →
      delete (run calls) id = (.ok (), run (calls ++ [Call.delete id])) ∧
        journal (calls ++ [Call.delete id]) = journal calls ++ [Store.Write.removed id.value]) := by
  rw [ne_eq, ← not_contains_iff, Bool.not_eq_false]
  constructor
  · intro hmissing
    rw [delete, hmissing, Store.remove_of_not_contains hmissing]
    rfl
  · intro hthere
    obtain ⟨hrun, hjournal⟩ := concat_of_ok (Call.apply_delete hthere)
    rw [hrun, hjournal, delete, hthere]
    exact ⟨rfl, rfl⟩

end PlanStore

/-! ## Subscriptions -/

namespace SubscriptionStore

variable {s : SubscriptionStore}

namespace Call

/-- What the call writes if it goes through. -/
def writing (s : SubscriptionStore) : Call → Store.Write Subscription
  | .create c => .added (s.lastId + 1) (c.withId ⟨s.lastId + 1⟩)
  | .update c => .replaced c.id.value c
  | .delete id => .removed id.value

/-- What the call has written, or why it is refused, and the store as it leaves it. -/
def enter (s : SubscriptionStore) (call : Call) :
    Except Failure (Store.Write Subscription) × SubscriptionStore :=
  Store.told (call.apply s) fun () => call.writing s

theorem enter_of_ok {call : Call} {s' : SubscriptionStore} (h : call.apply s = (.ok (), s')) :
    call.enter s = (.ok (call.writing s), s') :=
  Store.told_eq_ok_iff.mpr ⟨(), h, rfl⟩

/-- A call that goes through writes what it tells, under the number that the value carries. -/
theorem writes_of_enter {call : Call} {w : Store.Write Subscription} {s' : SubscriptionStore}
    (h : call.enter s = (.ok w, s')) :
    w.Leads s s' ∧ ∀ x, w.value? = some x → x.id.value = w.id := by
  obtain ⟨_, happly, rfl⟩ := Store.told_eq_ok_iff.mp h
  cases call with
  | create c =>
    rw [apply_create] at happly
    split at happly
    · cases happly
    · cases happly
      refine ⟨⟨rfl, rfl⟩, fun x hx => ?_⟩
      cases hx
      rfl
  | update c =>
    cases hthere : s.contains c.id.value with
    | false =>
      rw [apply_update_of_not_contains hthere] at happly
      cases happly
    | true =>
      rw [apply_update s hthere, unchecked_update hthere] at happly
      split at happly
      · cases happly
      · cases happly
        refine ⟨⟨hthere, rfl⟩, fun x hx => ?_⟩
        cases hx
        rfl
  | delete id =>
    rw [apply_delete] at happly
    split at happly
    · next hthere =>
      cases happly
      exact ⟨⟨hthere, rfl⟩, fun x hx => nomatch hx⟩
    · cases happly

theorem faithful : Store.Faithful enter fun x => x.id.value where
  leads h := (writes_of_enter h).1
  numbered h := (writes_of_enter h).2
  refuses h := eq_of_apply_error (Store.told_eq_error_iff.mp h)

end Call

/-- The writes of a history that starts with an empty store. -/
def journal (calls : List Call) : Store.Journal Subscription := (Store.history Call.enter calls).1

theorem history_enter (calls : List Call) : (Store.history Call.enter calls).2 = run calls := by
  induction calls using List.reverseRecOn with
  | nil => rfl
  | append_singleton calls call ih =>
    rw [Store.history_concat, run_concat, ← ih]
    cases happly : call.apply (Store.history Call.enter calls).2 with
    | mk outcome s' =>
      rw [Call.after_eq_of_apply happly, Store.perform, Call.enter, happly]
      cases outcome <;> rfl

theorem isMapOf_run (calls : List Call) :
    Store.IsMapOf (fun x => x.id.value) (journal calls) (run calls) := by
  rw [← history_enter]
  exact .of_history Call.faithful calls

/-- Another active subscription of the user of the candidate stands under a number that the
candidate does not carry. -/
def Crowds (j : Store.Journal Subscription) (c : Subscription) : Prop :=
  c.isActive = true ∧
    ∃ k x, j.standing? k = some x ∧ k ≠ c.id.value ∧ x.user = c.user ∧ x.isActive = true

theorem hasOtherActive_run_iff (calls : List Call) (c : Subscription) :
    hasOtherActive (run calls) c = true ↔ Crowds (journal calls) c := by
  have hcheck := (wellFormed_run calls).hasOtherActive_eq_false_iff c
  simp only [(isMapOf_run calls).find?_eq] at hcheck
  rw [← Bool.not_eq_false, hcheck, Crowds]
  push Not
  simp only [ne_eq, Bool.not_eq_false]

theorem not_contains_iff (calls : List Call) (id : SubscriptionId) :
    (run calls).contains id.value = false ↔ (journal calls).standing? id.value = none := by
  rw [(isMapOf_run calls).contains_eq, Option.isSome_eq_false_iff, Option.isNone_iff_eq_none]

theorem concat_of_ok {calls : List Call} {call : Call}
    (h : call.apply (run calls) = (.ok (), s)) :
    run (calls ++ [call]) = s ∧
      journal (calls ++ [call]) = journal calls ++ [call.writing (run calls)] := by
  have henter := Call.enter_of_ok h
  rw [← history_enter] at henter
  rw [← history_enter, journal, Store.history_concat_of_ok henter, history_enter]
  exact ⟨rfl, rfl⟩

theorem concat_of_error {calls : List Call} {call : Call} {f : Failure}
    (h : call.apply (run calls) = (.error f, s)) :
    s = run calls ∧ run (calls ++ [call]) = run calls ∧
      journal (calls ++ [call]) = journal calls := by
  have henter : call.enter (Store.history Call.enter calls).2 = (.error f, s) := by
    rw [history_enter]
    exact Store.told_eq_error_iff.mpr h
  have hsame := Call.faithful.history_concat_of_error henter
  refine ⟨Call.eq_of_apply_error h, ?_, congrArg Prod.fst hsame⟩
  rw [← history_enter, ← history_enter, hsame]

/-- The next subscription gets the next identifier, unless it would be a second active one. -/
theorem create_run (calls : List Call) (c : Subscription) :
    (Crowds (journal calls) c →
      create (run calls) c = (.error (secondActive c.user), run calls)) ∧
    (¬Crowds (journal calls) c →
      create (run calls) c =
          (.ok (c.withId ⟨(journal calls).additions + 1⟩), run (calls ++ [Call.create c])) ∧
        journal (calls ++ [Call.create c]) = journal calls ++
          [Store.Write.added ((journal calls).additions + 1)
            (c.withId ⟨(journal calls).additions + 1⟩)]) := by
  rw [← hasOtherActive_run_iff, Bool.not_eq_true]
  constructor
  · intro hother
    rw [create, if_pos hother]
  · intro hother
    have happly := Call.apply_create (run calls) c
    rw [hother, if_neg Bool.false_ne_true] at happly
    obtain ⟨hrun, hjournal⟩ := concat_of_ok happly
    rw [hrun, hjournal, ← (isMapOf_run calls).recorded.lastId_eq, create, hother]
    exact ⟨rfl, rfl⟩

/-- A subscription is replaced if one has its identifier, unless the new one would be a second
active one. -/
theorem update_run (calls : List Call) (c : Subscription) :
    ((journal calls).standing? c.id.value = none →
      update (run calls) c = (.error (notFound c.id), run calls)) ∧
    ((journal calls).standing? c.id.value ≠ none → Crowds (journal calls) c →
      update (run calls) c = (.error (secondActive c.user), run calls)) ∧
    ((journal calls).standing? c.id.value ≠ none → ¬Crowds (journal calls) c →
      update (run calls) c = (.ok (), run (calls ++ [Call.update c])) ∧
        journal (calls ++ [Call.update c]) =
          journal calls ++ [Store.Write.replaced c.id.value c]) := by
  rw [← hasOtherActive_run_iff, Bool.not_eq_true, ne_eq, ← not_contains_iff, Bool.not_eq_false]
  refine ⟨fun hmissing => ?_, fun hthere hother => ?_, fun hthere hother => ?_⟩
  · rw [update, hmissing]
    rfl
  · rw [update, hthere, hother]
    rfl
  · have happly := Call.apply_update (run calls) hthere
    rw [hother, if_neg Bool.false_ne_true, Call.unchecked_update hthere] at happly
    obtain ⟨hrun, hjournal⟩ := concat_of_ok happly
    rw [hrun, hjournal, update, hthere, hother]
    exact ⟨rfl, rfl⟩

/-- A subscription is removed exactly if there is one. -/
theorem delete_run (calls : List Call) (id : SubscriptionId) :
    ((journal calls).standing? id.value = none →
      delete (run calls) id = (.error (notFound id), run calls)) ∧
    ((journal calls).standing? id.value ≠ none →
      delete (run calls) id = (.ok (), run (calls ++ [Call.delete id])) ∧
        journal (calls ++ [Call.delete id]) = journal calls ++ [Store.Write.removed id.value]) := by
  rw [ne_eq, ← not_contains_iff, Bool.not_eq_false]
  constructor
  · intro hmissing
    rw [delete, hmissing, Store.remove_of_not_contains hmissing]
    rfl
  · intro hthere
    have happly := Call.apply_delete (run calls) id
    rw [if_pos hthere] at happly
    obtain ⟨hrun, hjournal⟩ := concat_of_ok happly
    rw [hrun, hjournal, delete, hthere]
    exact ⟨rfl, rfl⟩

theorem mem_findByUser_run_iff (calls : List Call) {user : UserId} {x : Subscription} :
    x ∈ findByUser (run calls) user ↔
      (∃ k, (journal calls).standing? k = some x) ∧ x.user = user := by
  rw [findByUser, List.mem_filter, (isMapOf_run calls).mem_values_iff, beq_iff_eq]

/-- The active subscription of a user is the first active one in the listing. -/
theorem findActiveByUser_eq (s : SubscriptionStore) (user : UserId) :
    findActiveByUser s user = activeAmong (findByUser s user) := by
  rw [findActiveByUser, activeAmong, findByUser, List.find?_filter]
  simp only [Bool.decide_and, Bool.decide_eq_true]

end SubscriptionStore

/-- Whatever calls have been made on a store of plans, and likewise on one of subscriptions, the
store is the map that the journal of its writes tells.  New values get the next of the
identifiers 1, 2, 3, …, every look-up and every listing reads the values written last and not
deleted since, updates and deletions go through only where there is a value, and a refused
call changes nothing. -/
theorem stores_map_their_histories :
    (∀ calls : List PlanStore.Call,
      let s := PlanStore.run calls
      let j := PlanStore.journal calls
      -- writes
      (∀ p,
        PlanStore.create s p =
            (.ok (p.withId ⟨j.additions + 1⟩),
              PlanStore.run (calls ++ [PlanStore.Call.create p])) ∧
          PlanStore.journal (calls ++ [PlanStore.Call.create p]) =
            j ++ [Store.Write.added (j.additions + 1) (p.withId ⟨j.additions + 1⟩)]) ∧
      (∀ p,
        (j.standing? p.id.value = none →
          PlanStore.update s p = (.error (PlanStore.notFound p.id), s)) ∧
        (j.standing? p.id.value ≠ none →
          PlanStore.update s p = (.ok (), PlanStore.run (calls ++ [PlanStore.Call.update p])) ∧
            PlanStore.journal (calls ++ [PlanStore.Call.update p]) =
              j ++ [Store.Write.replaced p.id.value p])) ∧
      (∀ id,
        (j.standing? id.value = none →
          PlanStore.delete s id = (.error (PlanStore.notFound id), s)) ∧
        (j.standing? id.value ≠ none →
          PlanStore.delete s id = (.ok (), PlanStore.run (calls ++ [PlanStore.Call.delete id])) ∧
            PlanStore.journal (calls ++ [PlanStore.Call.delete id]) =
              j ++ [Store.Write.removed id.value])) ∧
      (∀ call f s', PlanStore.Call.apply s call = (.error f, s') →
        s' = s ∧ PlanStore.run (calls ++ [call]) = s ∧
          PlanStore.journal (calls ++ [call]) = j) ∧
      -- queries
      (∀ id, PlanStore.findById s id = j.standing? id.value ∧
        s.contains id.value = (j.standing? id.value).isSome) ∧
      (∀ k p, j.standing? k = some p → p.id = ⟨k⟩) ∧
      (∀ p, p ∈ PlanStore.findAll s ↔ ∃ k, j.standing? k = some p) ∧
      (PlanStore.findAll s).Pairwise fun p q => p.id.value < q.id.value) ∧
    (∀ calls : List SubscriptionStore.Call,
      let s := SubscriptionStore.run calls
      let j := SubscriptionStore.journal calls
      -- writes
      (∀ c,
        (SubscriptionStore.Crowds j c →
          SubscriptionStore.create s c = (.error (SubscriptionStore.secondActive c.user), s)) ∧
        (¬SubscriptionStore.Crowds j c →
          SubscriptionStore.create s c =
              (.ok (c.withId ⟨j.additions + 1⟩),
                SubscriptionStore.run (calls ++ [SubscriptionStore.Call.create c])) ∧
            SubscriptionStore.journal (calls ++ [SubscriptionStore.Call.create c]) =
              j ++ [Store.Write.added (j.additions + 1) (c.withId ⟨j.additions + 1⟩)])) ∧
      (∀ c,
        (j.standing? c.id.value = none →
          SubscriptionStore.update s c = (.error (SubscriptionStore.notFound c.id), s)) ∧
        (j.standing? c.id.value ≠ none → SubscriptionStore.Crowds j c →
          SubscriptionStore.update s c = (.error (SubscriptionStore.secondActive c.user), s)) ∧
        (j.standing? c.id.value ≠ none → ¬SubscriptionStore.Crowds j c →
          SubscriptionStore.update s c =
              (.ok (), SubscriptionStore.run (calls ++ [SubscriptionStore.Call.update c])) ∧
            SubscriptionStore.journal (calls ++ [SubscriptionStore.Call.update c]) =
              j ++ [Store.Write.replaced c.id.value c])) ∧
      (∀ id,
        (j.standing? id.value = none →
          SubscriptionStore.delete s id = (.error (SubscriptionStore.notFound id), s)) ∧
        (j.standing? id.value ≠ none →
          SubscriptionStore.delete s id =
              (.ok (), SubscriptionStore.run (calls ++ [SubscriptionStore.Call.delete id])) ∧
            SubscriptionStore.journal (calls ++ [SubscriptionStore.Call.delete id]) =
              j ++ [Store.Write.removed id.value])) ∧
      (∀ call f s', SubscriptionStore.Call.apply s call = (.error f, s') →
        s' = s ∧ SubscriptionStore.run (calls ++ [call]) = s ∧
          SubscriptionStore.journal (calls ++ [call]) = j) ∧
      -- queries
      (∀ id, SubscriptionStore.findById s id = j.standing? id.value ∧
        s.contains id.value = (j.standing? id.value).isSome) ∧
      (∀ k x, j.standing? k = some x → x.id = ⟨k⟩) ∧
      ∀ user,
        (∀ x, x ∈ SubscriptionStore.findByUser s user ↔
          (∃ k, j.standing? k = some x) ∧ x.user = user) ∧
        (SubscriptionStore.findByUser s user).Pairwise (fun x y => x.id.value < y.id.value) ∧
        SubscriptionStore.findActiveByUser s user =
          activeAmong (SubscriptionStore.findByUser s user)) := by
  constructor
  · intro calls s j
    have hmap := PlanStore.isMapOf_run calls
    exact ⟨PlanStore.create_run calls, PlanStore.update_run calls, PlanStore.delete_run calls,
      fun call f s' => PlanStore.concat_of_error,
      fun id => ⟨hmap.find?_eq id.value, hmap.contains_eq id.value⟩,
      fun k p hp => congrArg PlanId.mk (hmap.number_eq k p hp), fun p => hmap.mem_values_iff,
      hmap.sorted_values⟩
  · intro calls s j
    have hmap := SubscriptionStore.isMapOf_run calls
    exact ⟨SubscriptionStore.create_run calls, SubscriptionStore.update_run calls,
      SubscriptionStore.delete_run calls,
      fun call f s' => SubscriptionStore.concat_of_error,
      fun id => ⟨hmap.find?_eq id.value, hmap.contains_eq id.value⟩,
      fun k x hx => congrArg SubscriptionId.mk (hmap.number_eq k x hx),
      fun user => ⟨fun x => SubscriptionStore.mem_findByUser_run_iff calls,
        hmap.sorted_values.filter _, SubscriptionStore.findActiveByUser_eq s user⟩⟩

end RecurringBilling
