import RecurringBilling.Payment.Ledger
import RecurringBilling.Proofs.Text.Decimal

/-!
# The numbering of charges

References are distinct because they are the numerals of distinct numbers.  A ledger
whose references come from its own numbering is called numbered; charging and
refunding keep it so, and in it a refund removes exactly the charge that it is for.
-/

namespace RecurringBilling

open RecurringBilling.Calendar RecurringBilling.Text

namespace Ledger

theorem reference_inj {m n : Nat} (h : reference m = reference n) : m = n := by
  have hdigits : Decimal.writePadded 8 m = Decimal.writePadded 8 n := by
    simpa [reference, String.ext_iff] using h
  have hvalue := congrArg (fun digits => Nat.ofDigitChars 10 digits 0) hdigits
  simpa only [Decimal.ofDigitChars_writePadded] using hvalue

/-- The references of all charges are numerals up to the number of charges accepted,
and no reference occurs twice. -/
structure Numbered (l : Ledger) : Prop where
  number : ∀ r ∈ l.receipts ++ l.refunds, ∃ n, n ≤ l.accepted ∧ r.reference = reference n
  distinct : ((l.receipts ++ l.refunds).map Receipt.reference).Nodup

/-- A ledger that has not seen a charge is numbered. -/
theorem numbered_of_no_charges (l : Ledger) (hreceipts : l.receipts = [])
    (hrefunds : l.refunds = []) : l.Numbered where
  number := by
    intro r hr
    simp [hreceipts, hrefunds] at hr
  distinct := by simp [hreceipts, hrefunds]

/-- A charge that a ledger has refunded is not open. -/
theorem Numbered.not_mem_refunds {l : Ledger} (h : l.Numbered) {r : Receipt}
    (hr : r ∈ l.receipts) : r ∉ l.refunds := by
  intro hrefund
  have hdistinct := h.distinct
  rw [List.map_append, List.nodup_append] at hdistinct
  exact hdistinct.2.2 _ (List.mem_map_of_mem hr) _ (List.mem_map_of_mem hrefund) rfl

/-! ## Charging -/

/-- The receipt of the next charge. -/
def nextReceipt (l : Ledger) (s : Subscription) (p : Plan) (now : Instant) : Receipt :=
  { reference := reference (l.accepted + 1)
    user := s.user
    cents := p.terms.amount.cents
    currency := p.terms.currency.code
    chargedAt := now }

/-- The ledger after the next charge. -/
def withCharge (l : Ledger) (r : Receipt) : Ledger :=
  { l with accepted := l.accepted + 1, receipts := l.receipts ++ [r] }

theorem charge_eq (l : Ledger) (s : Subscription) (p : Plan) (now : Instant) :
    l.charge s p now =
      match l.decline with
      | some reason => (.error { code := .paymentFailed, message := reason }, l)
      | none => (.ok (l.nextReceipt s p now), l.withCharge (l.nextReceipt s p now)) := rfl

/-- A charge that is declined leaves the ledger as it is. -/
theorem eq_of_charge_error {l l' : Ledger} {s : Subscription} {p : Plan} {now : Instant}
    {f : Failure} (h : l.charge s p now = (.error f, l')) : l' = l := by
  rw [charge_eq] at h
  split at h
  · cases h
    rfl
  · cases h

theorem Numbered.withCharge {l : Ledger} (h : l.Numbered) (s : Subscription) (p : Plan)
    (now : Instant) : (l.withCharge (l.nextReceipt s p now)).Numbered := by
  have hperm : ((l.withCharge (l.nextReceipt s p now)).receipts ++
      (l.withCharge (l.nextReceipt s p now)).refunds).Perm
        (l.nextReceipt s p now :: (l.receipts ++ l.refunds)) := by
    simp [Ledger.withCharge, List.perm_middle]
  constructor
  · intro r hr
    rcases List.mem_cons.mp (hperm.mem_iff.mp hr) with rfl | hr
    · exact ⟨l.accepted + 1, Nat.le_refl _, rfl⟩
    · obtain ⟨n, hn, hreference⟩ := h.number r hr
      exact ⟨n, Nat.le_succ_of_le hn, hreference⟩
  · rw [(hperm.map Receipt.reference).nodup_iff, List.map_cons, List.nodup_cons]
    refine ⟨?_, h.distinct⟩
    -- every reference so far has a smaller number
    intro hmem
    obtain ⟨r, hr, hreference⟩ := List.mem_map.mp hmem
    obtain ⟨n, hn, hnumber⟩ := h.number r hr
    have : n = l.accepted + 1 := reference_inj (hnumber.symm.trans hreference)
    omega

/-! ## Refunding -/

/-- A refund that fails leaves the ledger as it is. -/
theorem eq_of_refund_error {l l' : Ledger} {receipt : Receipt} {f : Failure}
    (h : l.refund receipt = (.error f, l')) : l' = l := by
  unfold refund at h
  split at h
  · cases h
    rfl
  · cases h

/-- A refund goes by the reference of the receipt and by nothing else of it. -/
theorem refund_congr (l : Ledger) {receipt other : Receipt}
    (h : other.reference = receipt.reference) :
    l.refund other = l.refund receipt := by
  rw [refund, refund, h]

/-- A refund of an open charge takes that charge, and no other, out of the open ones. -/
theorem Numbered.refund_of_mem {l : Ledger} (h : l.Numbered) {r receipt : Receipt}
    (hr : r ∈ l.receipts) (hreference : r.reference = receipt.reference) :
    ∃ before after, l.receipts = before ++ r :: after ∧
      l.refund receipt =
        (.ok (), { l with receipts := before ++ after, refunds := l.refunds ++ [r] }) := by
  obtain ⟨before, after, hsplit⟩ := List.append_of_mem hr
  -- references are distinct, so the search does not stop before the charge itself
  have hbefore : ∀ x ∈ before, (x.reference == r.reference) = false := by
    intro x hx
    have hdistinct := h.distinct
    rw [hsplit, List.map_append, List.nodup_append, List.map_append, List.nodup_append] at hdistinct
    have hne := hdistinct.1.2.2 _ (List.mem_map_of_mem hx) r.reference (by simp)
    simpa using hne
  have hfind : l.openCharge? r.reference = some r := by
    rw [openCharge?, List.find?_eq_some_iff_append]
    exact ⟨by simp, before, after, hsplit, fun x hx => by simp [hbefore x hx]⟩
  refine ⟨before, after, hsplit, ?_⟩
  have herase : l.receipts.eraseP (fun x => x.reference == r.reference) = before ++ after := by
    rw [hsplit, List.eraseP_append_right _ (fun x hx => by simp [hbefore x hx]),
      List.eraseP_cons_of_pos (by simp)]
  rw [refund, ← hreference, hfind, herase]

/-- A refund moves one charge, and all charges together stay what they were. -/
theorem perm_refunded {l : Ledger} {r : Receipt} {before after : List Receipt}
    (hsplit : l.receipts = before ++ r :: after) :
    (before ++ after ++ (l.refunds ++ [r])).Perm (l.receipts ++ l.refunds) := by
  have hlast : (before ++ after ++ (l.refunds ++ [r])).Perm
      (r :: (before ++ after) ++ l.refunds) := by
    rw [← List.append_assoc]
    exact List.perm_append_singleton r _
  rw [hsplit]
  exact hlast.trans (List.perm_middle.symm.append_right _)

theorem Numbered.refunded {l : Ledger} (h : l.Numbered) {r : Receipt}
    {before after : List Receipt} (hsplit : l.receipts = before ++ r :: after) :
    Numbered { l with receipts := before ++ after, refunds := l.refunds ++ [r] } where
  number := fun x hx => h.number x ((perm_refunded hsplit).mem_iff.mp hx)
  distinct := ((perm_refunded hsplit).map Receipt.reference).nodup_iff.mpr h.distinct

end Ledger

end RecurringBilling
