import RecurringBilling.Proofs.Interleaving.Scene
import RecurringBilling.Proofs.Payment.Numbering
import RecurringBilling.Proofs.Store.Refusal
import Mathlib.Data.List.Induction

/-!
# The conservation of charges

Whoever calls a ledger sees which charges it accepts and which refunds go through.  What was seen
determines what stands in the ledger: each accepted charge is open or refunded, exactly once, as
it was recorded; the open ones stand in the order of the charges and the refunded ones in the
order of the refunds.  A refund goes by the reference of the receipt that it is given
and by nothing else of it.
-/

namespace RecurringBilling

open RecurringBilling.Calendar

namespace Ledger

/-! ## Calls and what is seen of them -/

/-- A call of a ledger.  A refund may be asked for with any receipt. -/
inductive Call where
  | charge (subscription : Subscription) (plan : Plan) (now : Instant)
  | refund (receipt : Receipt)
  deriving DecidableEq

/-- The call asks for a charge. -/
def Call.isCharge : Call → Bool
  | charge _ _ _ => true
  | refund _ => false

/-- A call that has gone through: an accepted charge and its receipt, or a refund and the reference
that it was given. -/
inductive Entry where
  | charged (receipt : Receipt)
  | refunded (reference : String)
  deriving DecidableEq

namespace Entry

/-- The receipt of an accepted charge. -/
def receipt? : Entry → Option Receipt
  | charged receipt => some receipt
  | refunded _ => none

/-- The reference of a refund. -/
def reference? : Entry → Option String
  | charged _ => none
  | refunded reference => some reference

end Entry

/-- What is seen of a call, if it goes through, and the ledger as the call leaves it. -/
def Call.apply (l : Ledger) : Call → Except Failure Entry × Ledger
  | charge subscription plan now =>
    let (outcome, l') := l.charge subscription plan now
    (outcome.map .charged, l')
  | refund receipt =>
    let (outcome, l') := l.refund receipt
    (outcome.map fun () => .refunded receipt.reference, l')

/-- What has been seen of a ledger, and the ledger. -/
structure History where
  entries : List Entry := []
  ledger : Ledger := {}
  deriving DecidableEq

namespace History

/-- The receipts of all accepted charges, in their order. -/
def charges (h : History) : List Receipt := h.entries.filterMap Entry.receipt?

/-- The references of all refunds that have gone through, in their order. -/
def refunded (h : History) : List String := h.entries.filterMap Entry.reference?

/-- The history with one more entry, and the ledger that goes with it. -/
def enter (h : History) (entry : Entry) (l : Ledger) : History :=
  { entries := h.entries ++ [entry], ledger := l }

/-- The history after one more call.  Of a call that fails nothing is entered, but the ledger is the
one that it leaves. -/
def after (h : History) (call : Call) : History :=
  match call.apply h.ledger with
  | (.ok entry, l) => h.enter entry l
  | (.error _, l) => { h with ledger := l }

/-- The history of calls on a fresh ledger that accepts every charge. -/
def ofCalls (calls : List Call) : History := calls.foldl after {}

section

variable (h : History) (l : Ledger) (r : Receipt) (reference : String)

@[simp] theorem enter_ledger (entry : Entry) : (h.enter entry l).ledger = l := rfl

@[simp] theorem charges_enter_charged : (h.enter (.charged r) l).charges = h.charges ++ [r] := by
  simp [enter, charges, Entry.receipt?]

@[simp] theorem charges_enter_refunded :
    (h.enter (.refunded reference) l).charges = h.charges := by
  simp [enter, charges, Entry.receipt?]

@[simp] theorem refunded_enter_charged : (h.enter (.charged r) l).refunded = h.refunded := by
  simp [enter, refunded, Entry.reference?]

@[simp] theorem refunded_enter_refunded :
    (h.enter (.refunded reference) l).refunded = h.refunded ++ [reference] := by
  simp [enter, refunded, Entry.reference?]

end

theorem ofCalls_concat (calls : List Call) (call : Call) :
    ofCalls (calls ++ [call]) = (ofCalls calls).after call := by
  simp [ofCalls, List.foldl_append]

end History

/-! ## Calls one by one -/

theorem Call.apply_refund_of_error {l l' : Ledger} {receipt : Receipt} {f : Failure}
    (h : l.refund receipt = (.error f, l')) : (refund receipt).apply l = (.error f, l') := by
  rw [apply, h]
  rfl

/-- A call that fails leaves the ledger as it finds it. -/
theorem Call.eq_of_apply_error {l l' : Ledger} {call : Call} {f : Failure}
    (h : call.apply l = (.error f, l')) : l' = l := by
  cases call with
  | charge s p now =>
    cases hcharge : l.charge s p now with
    | mk outcome left =>
      rw [Call.apply, hcharge] at h
      cases outcome with
      | ok receipt => cases h
      | error e =>
        cases h
        exact eq_of_charge_error hcharge
  | refund receipt =>
    cases hrefund : l.refund receipt with
    | mk outcome left =>
      rw [Call.apply, hrefund] at h
      cases outcome with
      | ok => cases h
      | error e =>
        cases h
        exact eq_of_refund_error hrefund

/-- A reference names an open charge, or there is nothing to refund. -/
theorem openCharge?_isSome_iff {l : Ledger} {reference : String} :
    (l.openCharge? reference).isSome = true ↔ ∃ r ∈ l.receipts, r.reference = reference := by
  simp [openCharge?, List.find?_isSome]

theorem exists_refund_iff {l : Ledger} {receipt : Receipt} :
    (∃ l', l.refund receipt = (.ok (), l')) ↔
      ∃ r ∈ l.receipts, r.reference = receipt.reference := by
  rw [← openCharge?_isSome_iff]
  unfold refund
  cases l.openCharge? receipt.reference <;> simp

/-- A refund moves one charge, as it was recorded, from the open ones to the end of the others. -/
structure Moves (reference : String) (r : Receipt) (l l' : Ledger) : Prop where
  reference : r.reference = reference
  receipts : ∃ before after, l.receipts = before ++ r :: after ∧ l'.receipts = before ++ after
  refunds : l'.refunds = l.refunds ++ [r]
  accepted : l'.accepted = l.accepted
  decline : l'.decline = l.decline

/-- What moves is the charge as it was recorded, whatever else the receipt says. -/
theorem Numbered.moves_of_refund {l l' : Ledger} (h : l.Numbered) {receipt : Receipt}
    (hrefund : l.refund receipt = (.ok (), l')) : ∃ r, Moves receipt.reference r l l' := by
  obtain ⟨r, hr, hreference⟩ := exists_refund_iff.mp ⟨l', hrefund⟩
  obtain ⟨before, after, hsplit, hmoved⟩ := h.refund_of_mem hr hreference
  rw [hmoved] at hrefund
  cases hrefund
  exact ⟨r, hreference, ⟨before, after, hsplit, rfl⟩, rfl, rfl, rfl⟩

/-- After a refund, the open charges and the refunded ones are the same charges as before. -/
theorem Moves.perm {reference : String} {r : Receipt} {l l' : Ledger}
    (h : Moves reference r l l') :
    (l'.receipts ++ l'.refunds).Perm (l.receipts ++ l.refunds) := by
  obtain ⟨before, after, hsplit, hleft⟩ := h.receipts
  rw [hleft, h.refunds]
  exact perm_refunded hsplit

theorem Moves.sublist {reference : String} {r : Receipt} {l l' : Ledger}
    (h : Moves reference r l l') : l'.receipts.Sublist l.receipts := by
  obtain ⟨before, after, hsplit, hleft⟩ := h.receipts
  rw [hsplit, hleft]
  exact (List.sublist_cons_self r after).append_left before

theorem Moves.numbered {reference : String} {r : Receipt} {l l' : Ledger}
    (h : Moves reference r l l') (hl : l.Numbered) : l'.Numbered where
  number x hx := by
    rw [h.accepted]
    exact hl.number x (h.perm.mem_iff.mp hx)
  distinct := (h.perm.map Receipt.reference).nodup_iff.mpr hl.distinct

/-! ## Histories -/

namespace History

/-- A call that fails leaves the history as it is. -/
theorem after_of_error {h : History} {call : Call} {f : Failure} {l : Ledger}
    (herror : call.apply h.ledger = (.error f, l)) : h.after call = h := by
  obtain rfl := Call.eq_of_apply_error herror
  rw [after, herror]

/-- The history tells what stands in the ledger. -/
structure Accounts (h : History) : Prop where
  accepting : h.ledger.decline = none
  numbered : h.ledger.Numbered
  perm : (h.ledger.receipts ++ h.ledger.refunds).Perm h.charges
  sublist : h.ledger.receipts.Sublist h.charges
  refunds : h.ledger.refunds.map Receipt.reference = h.refunded

theorem accounts_empty : Accounts {} where
  accepting := rfl
  numbered := numbered_of_no_charges {} rfl rfl
  perm := List.Perm.refl []
  sublist := List.Sublist.refl []
  refunds := rfl

namespace Accounts

variable {h : History}

/-- Step: a charge goes through, a refund goes through and moves one charge, or it fails. -/
theorem after_cases (hh : h.Accounts) (call : Call) :
    (∃ s p now, call = .charge s p now ∧
      h.after call = h.enter (.charged (h.ledger.nextReceipt s p now))
        (h.ledger.withCharge (h.ledger.nextReceipt s p now))) ∨
    (∃ receipt r l, call = .refund receipt ∧ Moves receipt.reference r h.ledger l ∧
      h.after call = h.enter (.refunded receipt.reference) l) ∨
    ∃ receipt, call = .refund receipt ∧ h.after call = h := by
  cases call with
  | charge s p now =>
    refine Or.inl ⟨s, p, now, rfl, ?_⟩
    rw [History.after, Call.apply, charge_eq, hh.accepting]
    rfl
  | refund receipt =>
    cases hrefund : h.ledger.refund receipt with
    | mk outcome l =>
      cases outcome with
      | ok =>
        obtain ⟨r, hmoves⟩ := hh.numbered.moves_of_refund hrefund
        refine Or.inr (Or.inl ⟨receipt, r, l, rfl, hmoves, ?_⟩)
        rw [History.after, Call.apply, hrefund]
        rfl
      | error f =>
        exact Or.inr (Or.inr ⟨receipt, rfl, after_of_error (Call.apply_refund_of_error hrefund)⟩)

theorem of_charge (hh : h.Accounts) (s : Subscription) (p : Plan) (now : Instant) :
    (h.enter (.charged (h.ledger.nextReceipt s p now))
      (h.ledger.withCharge (h.ledger.nextReceipt s p now))).Accounts where
  accepting := hh.accepting
  numbered := hh.numbered.withCharge s p now
  perm := by
    rw [charges_enter_charged, enter_ledger, withCharge, List.append_assoc]
    exact List.perm_middle.trans
      ((hh.perm.cons _).trans (List.perm_append_singleton _ h.charges).symm)
  sublist := by
    rw [charges_enter_charged]
    exact hh.sublist.append (List.Sublist.refl _)
  refunds := by
    rw [refunded_enter_charged]
    exact hh.refunds

/-- A refund that goes through is entered under the reference that it was given. -/
theorem of_moves (hh : h.Accounts) {reference : String} {r : Receipt} {l : Ledger}
    (hmoves : Moves reference r h.ledger l) : (h.enter (.refunded reference) l).Accounts where
  accepting := hmoves.decline.trans hh.accepting
  numbered := hmoves.numbered hh.numbered
  perm := by
    rw [charges_enter_refunded]
    exact hmoves.perm.trans hh.perm
  sublist := by
    rw [charges_enter_refunded]
    exact hmoves.sublist.trans hh.sublist
  refunds := by
    rw [refunded_enter_refunded, enter_ledger, hmoves.refunds, List.map_append, hh.refunds,
      List.map_singleton, hmoves.reference]

/-- Step: a call keeps the account. -/
theorem after (hh : h.Accounts) (call : Call) : (h.after call).Accounts := by
  obtain ⟨s, p, now, -, hafter⟩ | ⟨receipt, r, l, -, hmoves, hafter⟩ | ⟨receipt, -, hafter⟩ :=
    hh.after_cases call
  · rw [hafter]
    exact hh.of_charge s p now
  · rw [hafter]
    exact hh.of_moves hmoves
  · rw [hafter]
    exact hh

end Accounts

/-- Run: calls on a fresh ledger keep the account, whatever they are. -/
theorem accounts_ofCalls (calls : List Call) : (ofCalls calls).Accounts := by
  induction calls using List.reverseRecOn with
  | nil => exact accounts_empty
  | append_singleton calls call ih =>
    rw [ofCalls_concat]
    exact ih.after call

/-- Every call for a charge is accepted, so there are as many charges as calls for one. -/
theorem length_charges (calls : List Call) :
    (ofCalls calls).charges.length = calls.countP Call.isCharge := by
  induction calls using List.reverseRecOn with
  | nil => rfl
  | append_singleton calls call ih =>
    rw [ofCalls_concat, List.countP_append, ← ih]
    obtain ⟨s, p, now, rfl, hafter⟩ | ⟨receipt, r, l, rfl, -, hafter⟩ | ⟨receipt, rfl, hafter⟩ :=
      (accounts_ofCalls calls).after_cases call
    · rw [hafter, charges_enter_charged, List.length_append]
      rfl
    · rw [hafter, charges_enter_refunded]
      rfl
    · rw [hafter]
      rfl

end History

/-- Charges are conserved, whatever a ledger that accepts them is called for.  Every call for a
charge makes one, all under references of their own; together the open and the refunded charges
are all of them, each once, in the order of the charges and in that of the refunds.  A refund goes
through just if its reference names an open charge, moves that charge as it was recorded, whatever
else the receipt says, and otherwise leaves the ledger as it found it; so no reference is refunded
twice. -/
theorem charges_are_conserved (calls : List Call) :
    let h := History.ofCalls calls
    let l := h.ledger
    h.charges.length = calls.countP Call.isCharge ∧
    (h.charges.map Receipt.reference).Nodup ∧
    (l.receipts ++ l.refunds).Perm h.charges ∧
    l.receipts.Sublist h.charges ∧
    l.refunds.map Receipt.reference = h.refunded ∧
    h.refunded.Nodup ∧
    ∀ receipt : Receipt,
      ((∃ l', l.refund receipt = (.ok (), l')) ↔
        ∃ r ∈ l.receipts, r.reference = receipt.reference) ∧
      (∀ l', l.refund receipt = (.ok (), l') → ∃ r, Moves receipt.reference r l l') ∧
      (∀ other : Receipt, other.reference = receipt.reference →
        l.refund other = l.refund receipt) ∧
      ∀ f l', l.refund receipt = (.error f, l') →
        l' = l ∧ History.ofCalls (calls ++ [.refund receipt]) = h := by
  intro h l
  have hh : h.Accounts := History.accounts_ofCalls calls
  have hrefunded : (l.refunds.map Receipt.reference).Nodup := by
    have hdistinct := hh.numbered.distinct
    rw [List.map_append] at hdistinct
    exact (List.nodup_append.mp hdistinct).2.1
  refine ⟨History.length_charges calls, ?_, hh.perm, hh.sublist, hh.refunds, ?_, ?_⟩
  · exact (hh.perm.map Receipt.reference).nodup_iff.mp hh.numbered.distinct
  · rw [← hh.refunds]
    exact hrefunded
  · intro receipt
    refine ⟨exists_refund_iff, fun l' hrefund => hh.numbered.moves_of_refund hrefund,
      fun other hreference => refund_congr l hreference, ?_⟩
    intro f l' hrefund
    have herror := Call.apply_refund_of_error hrefund
    rw [History.ofCalls_concat, History.after_of_error herror]
    exact ⟨Call.eq_of_apply_error herror, rfl⟩

/-- Two charges, and a refund with the reference of the first and nothing else of it: the charge
that was recorded moves, and a second such refund changes nothing. -/
theorem first_of_two_charges_moves_as_recorded :
    let charges : List Call :=
      [.charge (SubscriptionStore.freshActive ⟨7⟩) .monthly .epoch,
        .charge (SubscriptionStore.freshActive ⟨8⟩) .monthly .epoch]
    let forged : Receipt := ⟨"stub_ch_00000001", ⟨99⟩, 0, "", .epoch⟩
    let before := (History.ofCalls charges).ledger
    let after := (History.ofCalls (charges ++ [.refund forged])).ledger
    (∃ r, Moves forged.reference r before after) ∧
      (after.refunds.map fun r => (r.user, r.cents)) = [(⟨7⟩, 999)] ∧
      after.receipts.map Receipt.user = [⟨8⟩] ∧
      History.ofCalls (charges ++ [.refund forged] ++ [.refund forged]) =
        History.ofCalls (charges ++ [.refund forged]) := by
  intro charges forged before after
  have hfirst : before.refund forged = (.ok (), after) := by decide +kernel
  have hsecond : after.refund forged =
      (.error { code := .paymentFailed, message := "no open charge stub_ch_00000001" }, after) := by
    decide +kernel
  obtain ⟨-, -, -, -, -, -, hrefund⟩ := charges_are_conserved charges
  obtain ⟨-, -, -, -, -, -, hagain⟩ := charges_are_conserved (charges ++ [.refund forged])
  exact ⟨(hrefund forged).2.1 after hfirst, by decide +kernel, by decide +kernel,
    ((hagain forged).2.2.2 _ _ hsecond).2⟩

end Ledger
end RecurringBilling
