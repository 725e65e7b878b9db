import RecurringBilling.Payment.Ledger
import RecurringBilling.Store.Accounts
import RecurringBilling.Store.Plans
import RecurringBilling.Store.Subscriptions
import RecurringBilling.World.Fault
import RecurringBilling.Program.Basic

/-!
# The world of a program

The world answers requests from its stores, its ledger and its clock.  Faults
answer first, each once, the oldest first.  Hashing and tokens come from services
that do not change; what changes from one hash to the next is the salt.
-/

namespace RecurringBilling

open RecurringBilling.Calendar

/-- The services of a world.  A password is hashed with a salt. -/
structure Services where
  hash : (salt : List UInt8) → (plaintext : String) → Except Failure String
  verify : (plaintext hash : String) → Bool
  issue : Instant → UserAccount → Except Failure String

/-- The state of a world.  While it is `blind`, the look-up of an active
subscription finds none. -/
structure World where
  now : Instant
  salt : List UInt8 := []
  plans : PlanStore := {}
  subscriptions : SubscriptionStore := {}
  accounts : AccountStore := {}
  ledger : Ledger := {}
  faults : List Fault := []
  blind : Bool := false

namespace World

/-- A look-up that does not fail. -/
def found {α : Type} (w : World) (a : α) : Except Failure α × World := (.ok a, w)

/-- The answer of a call, and the world with what the call leaves. -/
def written {α σ : Type} (call : Except Failure α × σ) (keep : σ → World) :
    Except Failure α × World :=
  (call.1, keep call.2)

/-- Answers a request without regard to faults. -/
def serve (sv : Services) (w : World) : (r : Request) → r.Answer × World
  | .clock => (w.now, w)
  | .createPlan plan => written (PlanStore.create w.plans plan) fun plans => { w with plans }
  | .findPlan id => w.found (PlanStore.findById w.plans id)
  | .listPlans => w.found (PlanStore.findAll w.plans)
  | .createSubscription s =>
    written (SubscriptionStore.create w.subscriptions s) fun subscriptions =>
      { w with subscriptions }
  | .updateSubscription s =>
    written (SubscriptionStore.update w.subscriptions s) fun subscriptions =>
      { w with subscriptions }
  | .findSubscription id => w.found (SubscriptionStore.findById w.subscriptions id)
  | .listSubscriptions user => w.found (SubscriptionStore.findByUser w.subscriptions user)
  | .findActiveSubscription user =>
    w.found (if w.blind then none else SubscriptionStore.findActiveByUser w.subscriptions user)
  | .createAccount a =>
    written (AccountStore.create w.accounts a) fun accounts => { w with accounts }
  | .updateAccount a =>
    written (AccountStore.update w.accounts a) fun accounts => { w with accounts }
  | .findAccount id => w.found (AccountStore.findById w.accounts id)
  | .findAccountByEmail email => w.found (AccountStore.findByEmail w.accounts email)
  | .charge s plan => written (w.ledger.charge s plan w.now) fun ledger => { w with ledger }
  | .refund receipt => written (w.ledger.refund receipt) fun ledger => { w with ledger }
  | .hashPassword plaintext => (some (sv.hash w.salt plaintext), w)
  | .verifyPassword plaintext hash => (some (sv.verify plaintext hash), w)
  | .issueToken account => (sv.issue w.now account, w)

/-- The oldest fault that answers a request, its answer and the faults without
it. -/
def takeFault? (r : Request) : List Fault → Option (r.Answer × List Fault)
  | [] => none
  | fault :: rest =>
    match fault.answer? r with
    | some answer => some (answer, rest)
    | none => (takeFault? r rest).map fun (answer, others) => (answer, fault :: others)

/-- Answers a request. -/
def answer (sv : Services) (w : World) (r : Request) : r.Answer × World :=
  match takeFault? r w.faults with
  | some (answer, faults) => (answer, { w with faults })
  | none => w.serve sv r

end World

/-- Runs a program to its end without interruption. -/
def Program.run {α : Type} (sv : Services) : Program α → World → α × World
  | .done a, w => (a, w)
  | .call r next, w => run sv (next (w.answer sv r).1) (w.answer sv r).2

end RecurringBilling
