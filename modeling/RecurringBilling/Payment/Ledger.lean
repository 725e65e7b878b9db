import RecurringBilling.Failure
import RecurringBilling.Payment.Receipt
import RecurringBilling.Plan.Basic
import RecurringBilling.Subscription.Basic

/-!
# The ledger of charges

The ledger numbers the charges it accepts and keeps them in two lists: open
charges in the order of their acceptance, refunded ones in the order of their
refunds.  It may be told to decline every charge for a reason.  A call gives its
outcome and the ledger after it, also where it is refused.
-/

namespace RecurringBilling

open RecurringBilling.Calendar RecurringBilling.Text

/-- Charges and refunds so far. -/
structure Ledger where
  accepted : Nat := 0
  receipts : List Receipt := []
  refunds : List Receipt := []
  decline : Option String := none
  deriving DecidableEq

namespace Ledger

/-- The name of the charge with a number: eight digits or more. -/
def reference (number : Nat) : String :=
  "stub_ch_" ++ String.ofList (Decimal.writePadded 8 number)

/-- Charges the price of a plan to the user of a subscription. -/
def charge (l : Ledger) (subscription : Subscription) (plan : Plan) (now : Instant) :
    Except Failure Receipt × Ledger :=
  match l.decline with
  | some reason => (.error { code := .paymentFailed, message := reason }, l)
  | none =>
    let receipt : Receipt :=
      { reference := reference (l.accepted + 1)
        user := subscription.user
        cents := plan.terms.amount.cents
        currency := plan.terms.currency.code
        chargedAt := now }
    (.ok receipt, { l with accepted := l.accepted + 1, receipts := l.receipts ++ [receipt] })

/-- The open charge of a reference. -/
def openCharge? (l : Ledger) (reference : String) : Option Receipt :=
  l.receipts.find? fun r => r.reference == reference

/-- Refunds the open charge that the reference of a receipt names.  What moves is the charge as it
was recorded, whatever else the receipt says. -/
def refund (l : Ledger) (receipt : Receipt) : Except Failure Unit × Ledger :=
  match l.openCharge? receipt.reference with
  | none =>
    (.error { code := .paymentFailed, message := "no open charge " ++ receipt.reference }, l)
  | some charge =>
    (.ok (),
      { l with
        receipts := l.receipts.eraseP fun r => r.reference == receipt.reference
        refunds := l.refunds ++ [charge] })

end Ledger

end RecurringBilling
