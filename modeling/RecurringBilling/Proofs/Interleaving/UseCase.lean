import RecurringBilling.Billing.Catalogue
import RecurringBilling.Billing.Overview
import RecurringBilling.Billing.Renew
import RecurringBilling.Billing.Subscribe
import RecurringBilling.Identity.Activate
import RecurringBilling.Identity.Register
import RecurringBilling.Identity.SignIn

/-!
# Use cases as data

A use case with its arguments is a value here, so that a list of them can be
started side by side.  `program` gives the program that carries it out.
-/

namespace RecurringBilling

/-- A use case and its arguments. -/
inductive UseCase where
  | createPlan (draft : PlanDraft)
  | listPlans
  | subscribe (user : UserId) (plan : PlanId)
  | changeStatus (id : SubscriptionId) (code : String)
  | changeAutoRenew (id : SubscriptionId) (autoRenew : Bool)
  | renew (id : SubscriptionId)
  | listSubscriptions (user : UserId)
  | register (name email password : String)
  | activate (user : UserId)
  | signIn (email password : String)
  deriving DecidableEq

namespace UseCase

/-- What a use case fails with. -/
@[reducible]
def Error : UseCase → Type
  | .createPlan _ => BillingError
  | .listPlans => BillingError
  | .subscribe _ _ => BillingError
  | .changeStatus _ _ => BillingError
  | .changeAutoRenew _ _ => BillingError
  | .renew _ => BillingError
  | .listSubscriptions _ => BillingError
  | .register _ _ _ => IdentityError
  | .activate _ => IdentityError
  | .signIn _ _ => IdentityError

/-- What a use case gives back when it succeeds. -/
@[reducible]
def Value : UseCase → Type
  | .createPlan _ => Plan
  | .listPlans => List Plan
  | .subscribe _ _ => Subscribed
  | .changeStatus _ _ => StatusChanged
  | .changeAutoRenew _ _ => Subscription
  | .renew _ => Renewed
  | .listSubscriptions _ => List Subscription
  | .register _ _ _ => UserAccount
  | .activate _ => Activated
  | .signIn _ _ => SignedIn

/-- How a use case ends. -/
abbrev Outcome (u : UseCase) : Type := Except u.Error u.Value

/-- The billing error in the error of a use case. -/
def billingError? : (u : UseCase) → u.Error → Option BillingError
  | .createPlan _, e => some e
  | .listPlans, e => some e
  | .subscribe _ _, e => some e
  | .changeStatus _ _, e => some e
  | .changeAutoRenew _ _, e => some e
  | .renew _, e => some e
  | .listSubscriptions _, e => some e
  | .register _ _ _, _ => none
  | .activate _, _ => none
  | .signIn _ _, _ => none

/-- The program of a use case. -/
def program : (u : UseCase) → Program u.Outcome
  | .createPlan draft => RecurringBilling.createPlan draft
  | .listPlans => RecurringBilling.listPlans
  | .subscribe user plan => RecurringBilling.subscribe user plan
  | .changeStatus id code => RecurringBilling.changeStatus id code
  | .changeAutoRenew id autoRenew => RecurringBilling.changeAutoRenew id autoRenew
  | .renew id => RecurringBilling.renew id
  | .listSubscriptions user => RecurringBilling.listSubscriptions user
  | .register name email password => RecurringBilling.register name email password
  | .activate user => RecurringBilling.activate user
  | .signIn email password => RecurringBilling.signIn email password

/-- The use case writes subscriptions. -/
def isSubscriptionWork : UseCase → Bool
  | .subscribe _ _ | .changeStatus _ _ | .changeAutoRenew _ _ | .renew _ => true
  | _ => false

/-- The stored subscription that a use case is about. -/
def target? : UseCase → Option SubscriptionId
  | .changeStatus id _ | .changeAutoRenew id _ | .renew id => some id
  | _ => none

/-- The receipt in the value of a use case. -/
def receipt? : (u : UseCase) → u.Value → Option Receipt
  | .subscribe _ _, v => v.receipt
  | .renew _, v => some v.receipt
  | _, _ => none

/-- The use case subscribes a user. -/
def subscribes (user : UserId) : UseCase → Bool
  | .subscribe u _ => u == user
  | _ => false

end UseCase

end RecurringBilling
