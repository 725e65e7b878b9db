import Mathlib.Data.List.Induction
import RecurringBilling.Failure
import RecurringBilling.Proofs.Store.Order

/-!
# Journals

A journal tells the writes that have gone through, each under its number and in their
order.  A store that starts empty and whose calls write what they tell is determined by
its journal: under each number stands the value that was written there last, unless it
has been removed since, and the numbers of added values are 1, 2, 3, …, whatever has been
removed or refused in between.
-/

namespace RecurringBilling

namespace Store

variable {α κ : Type}

/-- A write that has gone through, under a number. -/
inductive Write (α : Type) where
  | added (id : Nat) (a : α)
  | replaced (id : Nat) (a : α)
  | removed (id : Nat)
  deriving DecidableEq

namespace Write

/-- The number under which something was written. -/
def id : Write α → Nat
  | added id _ => id
  | replaced id _ => id
  | removed id => id

/-- The value that was written, if the write did not remove one. -/
def value? : Write α → Option α
  | added _ a => some a
  | replaced _ a => some a
  | removed _ => none

/-- The write has added a value. -/
def isAddition : Write α → Bool
  | added _ _ => true
  | _ => false

/-- The write leads from one store to another: it adds a value under the next number, or it
replaces or removes one that is there. -/
def Leads (s s' : Store α) : Write α → Prop
  | added id a => id = s.lastId + 1 ∧ s' = (s.add fun _ => a).2
  | replaced id a => s.contains id = true ∧ s' = s.put id a
  | removed id => s.contains id = true ∧ s' = s.remove id

variable {s s' : Store α} {w : Write α}

theorem Leads.ordered (h : w.Leads s s') (hs : s.Ordered) : s'.Ordered := by
  cases w with
  | added id a =>
    obtain ⟨-, rfl⟩ := h
    exact hs.add _
  | replaced id a =>
    obtain ⟨hid, rfl⟩ := h
    exact hs.put hid a
  | removed id =>
    obtain ⟨-, rfl⟩ := h
    exact hs.remove id

/-- A write changes what stands under its number and nothing else. -/
theorem Leads.find?_eq (h : w.Leads s s') (k : Nat) :
    s'.find? k = if k = w.id then w.value? else s.find? k := by
  cases w with
  | added id a =>
    obtain ⟨rfl, rfl⟩ := h
    exact find?_add s _ k
  | replaced id a =>
    obtain ⟨-, rfl⟩ := h
    exact find?_put s id k a
  | removed id =>
    obtain ⟨-, rfl⟩ := h
    exact find?_remove s id k

theorem Leads.lastId_eq (h : w.Leads s s') :
    s'.lastId = s.lastId + if w.isAddition then 1 else 0 := by
  cases w with
  | added id a =>
    obtain ⟨-, rfl⟩ := h
    rfl
  | replaced id a =>
    obtain ⟨-, rfl⟩ := h
    rfl
  | removed id =>
    obtain ⟨-, rfl⟩ := h
    rfl

end Write

/-- Writes in the order in which they have gone through. -/
abbrev Journal (α : Type) := List (Write α)

namespace Journal

/-- How many values have been added. -/
def additions (j : Journal α) : Nat := j.countP Write.isAddition

/-- The value that was written last under a number, if it has not been removed since. -/
def standing? (j : Journal α) (k : Nat) : Option α :=
  (j.filter fun w => w.id == k).getLast?.bind Write.value?

theorem additions_concat (j : Journal α) (w : Write α) :
    additions (j ++ [w]) = additions j + if w.isAddition then 1 else 0 := by
  rw [additions, List.countP_append, List.countP_singleton]
  rfl

theorem standing?_concat (j : Journal α) (w : Write α) (k : Nat) :
    standing? (j ++ [w]) k = if k = w.id then w.value? else standing? j k := by
  rw [standing?, List.filter_append]
  by_cases hk : k = w.id
  · rw [List.filter_cons_of_pos (by simp [hk]), List.filter_nil, List.getLast?_concat, if_pos hk]
    rfl
  · rw [List.filter_cons_of_neg (by simpa using fun h => hk h.symm), List.filter_nil,
      List.append_nil, if_neg hk]
    rfl

/-- What stands under a number was written there. -/
theorem mem_of_standing? {j : Journal α} {k : Nat} {a : α} (h : standing? j k = some a) :
    ∃ w ∈ j, w.id = k ∧ w.value? = some a := by
  obtain ⟨w, hw, hvalue⟩ := Option.bind_eq_some_iff.mp h
  obtain ⟨hmem, hid⟩ := List.mem_filter.mp (List.mem_of_getLast? hw)
  exact ⟨w, hmem, by simpa using hid, hvalue⟩

end Journal

/-- The store is the one to which the writes in the journal have led. -/
inductive Recorded : Journal α → Store α → Prop
  | empty : Recorded [] {}
  | write {j : Journal α} {s s' : Store α} {w : Write α} (h : Recorded j s) (hw : w.Leads s s') :
    Recorded (j ++ [w]) s'

namespace Recorded

variable {j : Journal α} {s : Store α}

theorem ordered (h : Recorded j s) : s.Ordered := by
  induction h with
  | empty => exact ordered_empty
  | write _ hw ih => exact hw.ordered ih

/-- Only an addition hands a number out. -/
theorem lastId_eq (h : Recorded j s) : s.lastId = j.additions := by
  induction h with
  | empty => rfl
  | write _ hw ih => rw [hw.lastId_eq, Journal.additions_concat, ih]

/-- Under each number stands what was written there last. -/
theorem find?_eq (h : Recorded j s) (k : Nat) : s.find? k = j.standing? k := by
  induction h with
  | empty => rfl
  | write _ hw ih => rw [hw.find?_eq, Journal.standing?_concat, ih]

end Recorded

/-! ## Histories of calls -/

/-- A journal and its store after one more call.  Nothing is told of a refused call, but the store
is the one that it leaves. -/
def perform (apply : Store α → κ → Except Failure (Write α) × Store α)
    (state : Journal α × Store α) (call : κ) : Journal α × Store α :=
  match apply state.2 call with
  | (.ok w, s) => (state.1 ++ [w], s)
  | (.error _, s) => (state.1, s)

/-- The journal of calls on an empty store, and the store after them. -/
def history (apply : Store α → κ → Except Failure (Write α) × Store α) (calls : List κ) :
    Journal α × Store α :=
  calls.foldl (perform apply) ([], {})

/-- A call of a store, with what it tells where it goes through. -/
def told {β : Type} (call : Except Failure β × Store α) (tell : β → Write α) :
    Except Failure (Write α) × Store α :=
  (call.1.map tell, call.2)

theorem told_eq_ok_iff {β : Type} {call : Except Failure β × Store α} {tell : β → Write α}
    {w : Write α} {s : Store α} :
    told call tell = (.ok w, s) ↔ ∃ b, call = (.ok b, s) ∧ tell b = w := by
  obtain ⟨outcome, s'⟩ := call
  cases outcome with
  | error f => simp [told, Except.map]
  | ok b => simp [told, Except.map, and_comm]

theorem told_eq_error_iff {β : Type} {call : Except Failure β × Store α} {tell : β → Write α}
    {f : Failure} {s : Store α} : told call tell = (.error f, s) ↔ call = (.error f, s) := by
  obtain ⟨outcome, s'⟩ := call
  cases outcome with
  | error f' => simp [told, Except.map]
  | ok b => simp [told, Except.map]

/-- A call that goes through writes what it tells, each value under the number that it carries, and
a refused call leaves the store as it is. -/
structure Faithful (apply : Store α → κ → Except Failure (Write α) × Store α)
    (number : α → Nat) : Prop where
  leads : ∀ {s call w s'}, apply s call = (.ok w, s') → w.Leads s s'
  numbered : ∀ {s call w s'}, apply s call = (.ok w, s') → ∀ a, w.value? = some a → number a = w.id
  refuses : ∀ {s call f s'}, apply s call = (.error f, s') → s' = s

section History

variable {apply : Store α → κ → Except Failure (Write α) × Store α} {number : α → Nat}

@[simp]
theorem history_concat (calls : List κ) (call : κ) :
    history apply (calls ++ [call]) = perform apply (history apply calls) call := by
  simp [history, List.foldl_append]

theorem history_concat_of_ok {calls : List κ} {call : κ} {w : Write α} {s : Store α}
    (h : apply (history apply calls).2 call = (.ok w, s)) :
    history apply (calls ++ [call]) = ((history apply calls).1 ++ [w], s) := by
  rw [history_concat, perform, h]

/-- A refused call leaves the journal and the store as they were. -/
theorem Faithful.history_concat_of_error (hfaithful : Faithful apply number) {calls : List κ}
    {call : κ} {f : Failure} {s : Store α}
    (h : apply (history apply calls).2 call = (.error f, s)) :
    history apply (calls ++ [call]) = history apply calls := by
  rw [history_concat, perform, h, hfaithful.refuses h]

/-- What every call that goes through preserves, every history preserves. -/
theorem Faithful.history_invariant (hfaithful : Faithful apply number)
    {I : Journal α × Store α → Prop} (hempty : I ([], {}))
    (hwrite : ∀ state call w s, I state → apply state.2 call = (.ok w, s) →
      I (state.1 ++ [w], s)) (calls : List κ) : I (history apply calls) := by
  induction calls using List.reverseRecOn with
  | nil => exact hempty
  | append_singleton calls call ih =>
    cases happly : apply (history apply calls).2 call with
    | mk outcome s =>
      cases outcome with
      | error f =>
        rw [hfaithful.history_concat_of_error happly]
        exact ih
      | ok w =>
        rw [history_concat_of_ok happly]
        exact hwrite _ call w s ih happly

/-- The journal records the store. -/
theorem Faithful.recorded_history (hfaithful : Faithful apply number) (calls : List κ) :
    Recorded (history apply calls).1 (history apply calls).2 :=
  hfaithful.history_invariant (I := fun state => Recorded state.1 state.2) .empty
    (fun _ _ _ _ hrecorded happly => hrecorded.write (hfaithful.leads happly)) calls

/-- Every value stands under the number that it carries. -/
theorem Faithful.number_of_standing? (hfaithful : Faithful apply number) (calls : List κ) {k : Nat}
    {a : α} (h : (history apply calls).1.standing? k = some a) : number a = k := by
  have hall : ∀ w ∈ (history apply calls).1, ∀ a, w.value? = some a → number a = w.id := by
    refine hfaithful.history_invariant
      (I := fun state => ∀ w ∈ state.1, ∀ a, w.value? = some a → number a = w.id) (by simp) ?_ calls
    intro state call w s' hstate happly x hx a ha
    rcases List.mem_append.mp hx with hold | hnew
    · exact hstate x hold a ha
    · obtain rfl := List.mem_singleton.mp hnew
      exact hfaithful.numbered happly a ha
  obtain ⟨w, hw, rfl, hvalue⟩ := Journal.mem_of_standing? h
  exact hall w hw a hvalue

end History

end Store

end RecurringBilling
