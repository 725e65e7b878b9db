import RecurringBilling.Proofs.Interleaving.Runs
import RecurringBilling.Proofs.Interleaving.Scripts
import Mathlib.Data.List.Forall2

/-!
# How failures are reported

A store or the ledger may fail any request with any failure.  The use case then owes its caller an
error that stands for the failure: the error of its own that the billing or the identity side has
for such a failure of such a request, and else the failure itself.  What a use case owes it pays,
unless a later failure takes the place of this one.  A refund asked for in between changes nothing,
whatever it is answered.
-/

namespace RecurringBilling

open RecurringBilling.Calendar

/-! ## Failures of requests -/

namespace Request

/-- The failure with which a store answers, or the ledger answers a charge. -/
def failure? : (r : Request) → r.Answer → Option Failure
  | .createPlan _, .error f => some f
  | .findPlan _, .error f => some f
  | .listPlans, .error f => some f
  | .createSubscription _, .error f => some f
  | .updateSubscription _, .error f => some f
  | .findSubscription _, .error f => some f
  | .listSubscriptions _, .error f => some f
  | .findActiveSubscription _, .error f => some f
  | .createAccount _, .error f => some f
  | .updateAccount _, .error f => some f
  | .findAccount _, .error f => some f
  | .findAccountByEmail _, .error f => some f
  | .charge _ _, .error f => some f
  | _, _ => none

end Request

namespace Exchange

/-- The failure that the exchange ends in. -/
def failure? (e : Exchange) : Option Failure := e.request.failure? e.answer

/-- The last failure in a log, and the request that it answers. -/
def lastFailure? (log : List Exchange) : Option (Request × Failure) :=
  (log.filterMap fun e => e.failure?.map (e.request, ·)).getLast?

theorem lastFailure?_cons (e : Exchange) (log : List Exchange) :
    lastFailure? (e :: log) = (lastFailure? log).or (e.failure?.map (e.request, ·)) := by
  unfold lastFailure?
  cases h : e.failure? with
  | none =>
    rw [List.filterMap_cons_none (by rw [h]; rfl), Option.map_none, Option.or_none]
  | some f =>
    rw [List.filterMap_cons_some (by rw [h]; rfl), List.getLast?_cons, Option.map_some]
    cases (List.filterMap _ log).getLast? <;> rfl

/-- Two exchanges are the same, or the same refund answered in two ways. -/
inductive SameButRefund : Exchange → Exchange → Prop where
  | same (e : Exchange) : SameButRefund e e
  | refund (receipt : Receipt) (answer answer' : Except Failure Unit) (injected injected' : Bool) :
      SameButRefund { request := .refund receipt, answer, injected }
        { request := .refund receipt, answer := answer', injected := injected' }

end Exchange

/-- Run: with its refunds answered otherwise, a program that follows a script runs to the same
end. -/
theorem Program.Follows.runs_of_sameButRefund {α : Type} {asks : List Exchange → Request → Prop}
    {ends : List Exchange → α → Prop} {p : Program α} {earlier log log' : List Exchange} {a : α}
    (h : p.Follows asks ends earlier) (hruns : p.Runs log a)
    (halike : List.Forall₂ Exchange.SameButRefund log log') : p.Runs log' a := by
  induction hruns generalizing earlier log' with
  | done a =>
    cases halike
    exact .done a
  | call answer injected rest ih =>
    obtain ⟨-, hrefund, hnext⟩ := h
    obtain _ | ⟨hsame, halike⟩ := halike
    cases hsame with
    | same => exact .call answer injected (ih (hnext answer injected) halike)
    | refund receipt answer answer' injected injected' =>
      refine Runs.call (r := .refund receipt) answer' injected' ?_
      rw [hrefund rfl answer' answer]
      exact ih (hnext answer injected) halike

/-! ## What stands for a failure -/

/-- The errors of one side of the program and the failures that they stand for.  Some failures of
some requests have an error of their own. -/
structure Vocabulary (ε : Type) where
  code : ε → FailureCode
  toFailure : ε → Failure
  own? : Request → Failure → Option ε
  external : Failure → ε
  code_of_own? : ∀ {r f e}, own? r f = some e → code e = f.code
  code_external : ∀ f, code (external f) = f.code
  toFailure_external : ∀ f, toFailure (external f) = f

namespace Vocabulary

variable {ε : Type} (v : Vocabulary ε)

/-- The error that stands for a failure of a request. -/
def told (r : Request) (f : Failure) : ε := (v.own? r f).getD (v.external f)

theorem told_of_own? {r : Request} {f : Failure} {e : ε} (h : v.own? r f = some e) :
    v.told r f = e := by
  rw [told, h, Option.getD_some]

theorem told_of_not_own {r : Request} {f : Failure} (h : v.own? r f = none) :
    v.told r f = v.external f := by
  rw [told, h, Option.getD_none]

theorem code_told (r : Request) (f : Failure) : v.code (v.told r f) = f.code := by
  cases h : v.own? r f with
  | none => rw [v.told_of_not_own h, v.code_external]
  | some e => rw [v.told_of_own? h, v.code_of_own? h]

/-- What is owed to the caller after an exchange. -/
def owedAfter (owed : Option ε) (e : Exchange) : Option ε :=
  (e.failure?.map (v.told e.request)).or owed

/-- What is owed in the end stands for the last failure. -/
theorem owedAfter_foldl (log : List Exchange) (owed : Option ε) :
    log.foldl v.owedAfter owed =
      ((Exchange.lastFailure? log).map fun (r, f) => v.told r f).or owed := by
  induction log generalizing owed with
  | nil => rfl
  | cons e log ih =>
    rw [List.foldl_cons, ih, owedAfter, Exchange.lastFailure?_cons]
    cases Exchange.lastFailure? log <;> cases e.failure? <;> rfl

end Vocabulary

namespace BillingError

/-- A declined charge, a user who has an active subscription and a subscription that is not stored
have errors of their own. -/
def own? : Request → Failure → Option BillingError
  | .charge _ _, f => if f.code = .paymentFailed then some (.paymentFailed f.message) else none
  | .createSubscription s, f =>
    if f.code = .activeSubscriptionExists then some (.alreadySubscribed s.user) else none
  | .updateSubscription s, f =>
    match f.code with
    | .subscriptionNotFound => some (.subscriptionNotFound s.id)
    | .activeSubscriptionExists => some (.alreadySubscribed s.user)
    | _ => none
  | _, _ => none

theorem code_of_own? {r : Request} {f : Failure} {e : BillingError} (h : own? r f = some e) :
    e.code = f.code := by
  cases r with
  | charge s p =>
    obtain ⟨hcode, he⟩ := Option.ite_none_right_eq_some.mp h
    cases he
    exact hcode.symm
  | createSubscription s =>
    obtain ⟨hcode, he⟩ := Option.ite_none_right_eq_some.mp h
    cases he
    exact hcode.symm
  | updateSubscription s =>
    rw [own?] at h
    split at h
    · next hcode => cases h; exact hcode.symm
    · next hcode => cases h; exact hcode.symm
    · cases h
  | _ => cases h

end BillingError

namespace IdentityError

/-- An address that is taken and an access that is not granted have errors of their own. -/
def ofStore? (f : Failure) : Option IdentityError :=
  match f.code with
  | .emailInUse => some .emailInUse
  | .unauthorized => some .invalidToken
  | _ => none

/-- The store of accounts is the only one whose failures have errors of their own. -/
def own? : Request → Failure → Option IdentityError
  | .createAccount _, f => ofStore? f
  | .updateAccount _, f => ofStore? f
  | .findAccount _, f => ofStore? f
  | .findAccountByEmail _, f => ofStore? f
  | _, _ => none

theorem getD_ofStore? (f : Failure) : (ofStore? f).getD (.external f) = .ofFailure f := by
  obtain ⟨code, message, details⟩ := f
  cases code <;> rfl

theorem code_of_ofStore? {f : Failure} {e : IdentityError} (h : ofStore? f = some e) :
    e.code = f.code := by
  unfold ofStore? at h
  split at h
  · next hcode => cases h; exact hcode.symm
  · next hcode => cases h; exact hcode.symm
  · cases h

theorem code_of_own? {r : Request} {f : Failure} {e : IdentityError} (h : own? r f = some e) :
    e.code = f.code := by
  cases r with
  | createAccount | updateAccount | findAccount | findAccountByEmail => exact code_of_ofStore? h
  | _ => cases h

end IdentityError

/-- How the billing side reports failures. -/
def Vocabulary.billing : Vocabulary BillingError where
  code := BillingError.code
  toFailure := BillingError.toFailure
  own? := BillingError.own?
  external := BillingError.external
  code_of_own? := BillingError.code_of_own?
  code_external _ := rfl
  toFailure_external _ := rfl

/-- How the identity side reports failures. -/
def Vocabulary.identity : Vocabulary IdentityError where
  code := IdentityError.code
  toFailure := IdentityError.toFailure
  own? := IdentityError.own?
  external := IdentityError.external
  code_of_own? := IdentityError.code_of_own?
  code_external _ := rfl
  toFailure_external _ := rfl

/-! The billing side sorts out the codes with a function for each kind of request, and these agree
with what stands for a failure. -/

namespace Vocabulary

theorem told_update (s : Subscription) (f : Failure) :
    billing.told (.updateSubscription s) f = .ofUpdate s.id s.user f := by
  obtain ⟨code, message, details⟩ := f
  cases code <;> rfl

theorem told_create (s : Subscription) (f : Failure) :
    billing.told (.createSubscription s) f = .ofCreation s.user f := by
  obtain ⟨code, message, details⟩ := f
  cases code <;> rfl

theorem told_charge (s : Subscription) (plan : Plan) (f : Failure) :
    billing.told (.charge s plan) f = .ofCharge f := by
  obtain ⟨code, message, details⟩ := f
  cases code <;> rfl

end Vocabulary

/-- How the errors of a use case report failures. -/
def UseCase.vocabulary : (u : UseCase) → Vocabulary u.Error
  | .createPlan _ => .billing
  | .listPlans => .billing
  | .subscribe _ _ => .billing
  | .changeStatus _ _ => .billing
  | .changeAutoRenew _ _ => .billing
  | .renew _ => .billing
  | .listSubscriptions _ => .billing
  | .register _ _ _ => .identity
  | .activate _ => .identity
  | .signIn _ _ => .identity

/-! ## What is owed is paid -/

/-- The conduct of paying what is owed in the end. -/
def Vocabulary.paying {ε α : Type} (v : Vocabulary ε) : Conduct (Option ε) (Except ε α) where
  after := v.owedAfter
  allows := fun _ _ => True
  ends := fun owed outcome => ∀ e, owed = some e → outcome = .error e

namespace Vocabulary

section

variable {ε α : Type} {v : Vocabulary ε}

/-- Who owes nothing may end as they like. -/
theorem pays_nothing (outcome : Except ε α) : v.paying.ends none outcome := nofun

/-- Who owes an error pays it by ending with it. -/
theorem pays {owed : Option ε} {e : ε} (h : owed = some e) :
    v.paying.ends owed (.error e : Except ε α) := by
  intro e' howed
  rw [Option.some.inj (h.symm.trans howed)]

end

variable {log : List Exchange}

/-! ### Changes and renewals -/

theorem pays_of_change {α : Type} {id : SubscriptionId}
    {change : Subscription → Instant → Except BillingError Unit × Subscription}
    {result : Subscription → Subscription → α} {a : Except BillingError α}
    (h : ChangeSubscription.Ends id change result log a) :
    billing.paying.ends (log.foldl billing.owedAfter none) a := by
  cases h with
  | failed f i => exact pays rfl
  | @unsaved before after now hchange f i j k => exact pays (congrArg some (told_update after f))
  | _ => exact pays_nothing _

section Renew

variable {id : SubscriptionId} {before : Subscription} {p : Plan} {nextEnd now : Instant}

theorem owes_of_due (h : Renew.Due id log before p nextEnd) :
    log.foldl billing.owedAfter none = none := by
  cases h
  rfl

/-- The declined charge is owed. -/
theorem owes_of_declined {reason : String} (h : Renew.Declined id log before reason now) :
    log.foldl billing.owedAfter none = some (.paymentFailed reason) := by
  cases h with
  | intro h hf now i j =>
    rw [List.foldl_concat, List.foldl_concat, owes_of_due h]
    exact congrArg some ((told_charge _ _ _).trans (if_pos hf))

theorem owes_of_paid {receipt : Receipt} (h : Renew.Paid id log before p nextEnd receipt now) :
    log.foldl billing.owedAfter none = none := by
  cases h with
  | intro h receipt now i j =>
    rw [List.foldl_concat, List.foldl_concat, owes_of_due h]
    rfl

theorem pays_of_renew {a : Except BillingError Renewed} (h : Renew.Ends id log a) :
    billing.paying.ends (log.foldl billing.owedAfter none) a := by
  cases h with
  | failed | planFailed => exact pays rfl
  | uncharged h hf i =>
    rw [List.foldl_concat]
    exact pays (congrArg some ((told_charge _ _ _).trans (if_neg hf)))
  | unmarked h f i =>
    rw [List.foldl_concat]
    exact pays (congrArg some (told_update _ f))
  | declined h i =>
    rw [List.foldl_concat, owes_of_declined h]
    exact pays rfl
  | early h _ answer i =>
    rw [List.foldl_concat, owes_of_paid h]
    exact pays_nothing _
  | unsaved h _ f answer i j =>
    rw [List.foldl_concat, List.foldl_concat]
    exact pays (congrArg some (told_update _ f))
  | renewed h _ i =>
    rw [List.foldl_concat, owes_of_paid h]
    exact pays_nothing _
  | _ => exact pays_nothing _

end Renew

/-! ### Subscribing -/

section Subscribe

variable {user : UserId} {planId : PlanId} {s : Subscription}

theorem owes_of_drafted {p : Plan} (h : Subscribe.Drafted user planId log s p) :
    log.foldl billing.owedAfter none = none := by
  cases h
  rfl

theorem owes_of_settled {receipt : Option Receipt}
    (h : Subscribe.Settled user planId log s receipt) :
    log.foldl billing.owedAfter none = none := by
  cases h with
  | trial h _ => exact owes_of_drafted h
  | charged h _ receipt i =>
    rw [List.foldl_concat, owes_of_drafted h]
    rfl

theorem pays_of_subscribe {a : Except BillingError Subscribed}
    (h : Subscribe.Ends user planId log a) :
    billing.paying.ends (log.foldl billing.owedAfter none) a := by
  cases h with
  | planFailed | failed => exact pays rfl
  | uncharged h _ f i =>
    rw [List.foldl_concat]
    exact pays (congrArg some (told_charge _ _ f))
  | stored h x i =>
    rw [List.foldl_concat, owes_of_settled h]
    exact pays_nothing _
  | unstored h f i =>
    rw [List.foldl_concat]
    exact pays (congrArg some (told_create _ f))
  | refunded h f answer i j =>
    rw [List.foldl_concat, List.foldl_concat]
    exact pays (congrArg some (told_create _ f))
  | _ => exact pays_nothing _

end Subscribe

/-! ### Accounts -/

theorem owes_of_ready {name email password hash : String} {address : Email} {now : Instant}
    (h : Register.Ready name email password log address hash now) :
    log.foldl identity.owedAfter none = none := by
  cases h
  rfl

theorem pays_of_register {name email password : String} {a : Except IdentityError UserAccount}
    (h : Register.Ends name email password log a) :
    identity.paying.ends (log.foldl identity.owedAfter none) a := by
  cases h with
  | lookFailed h f i => exact pays (congrArg some (IdentityError.getD_ofStore? f))
  | unsound h _ =>
    rw [owes_of_ready h]
    exact pays_nothing _
  | unstored h _ f i =>
    rw [List.foldl_concat]
    exact pays (congrArg some (IdentityError.getD_ofStore? f))
  | stored h _ x i =>
    rw [List.foldl_concat, owes_of_ready h]
    exact pays_nothing _
  -- nothing is owed for work on a password that fails
  | _ => exact pays_nothing _

end Vocabulary

namespace UseCase

open Vocabulary

theorem pays_of_ends {u : UseCase} {log : List Exchange} {a : u.Outcome} (h : u.Ends log a) :
    u.vocabulary.paying.ends (log.foldl u.vocabulary.owedAfter none) a := by
  cases u with
  | createPlan draft =>
    cases h with
    | failed => exact pays rfl
    | _ => exact pays_nothing _
  | listPlans | listSubscriptions =>
    cases h with
    | failed => exact pays rfl
    | _ => exact pays_nothing _
  | subscribe user plan => exact pays_of_subscribe h
  | changeStatus id code => exact pays_of_change h
  | changeAutoRenew id autoRenew => exact pays_of_change h
  | renew id => exact pays_of_renew h
  | register name email password => exact pays_of_register h
  | activate user =>
    cases h with
    | failed f i => exact pays (congrArg some (IdentityError.getD_ofStore? f))
    | unsaved _ _ f i j k => exact pays (congrArg some (IdentityError.getD_ofStore? f))
    | _ => exact pays_nothing _
  | signIn email password =>
    cases h with
    | lookFailed _ f i => exact pays (congrArg some (IdentityError.getD_ofStore? f))
    | _ => exact pays_nothing _

/-- Every use case pays what it owes. -/
theorem obeys_paying (u : UseCase) : u.program.Obeys u.vocabulary.paying none :=
  u.follows.obeys (fun _ _ _ _ => trivial) fun _ _ h _ => pays_of_ends h

/-- The last failure of a store, or of a charge, reaches the caller of a use case: the outcome is an
error with the code of the failure.  It is the error of its own that there is for such a failure of
such a request, and else an error that reads as the failure itself, with its message and details.
Refunds answered otherwise lead to the same outcome. -/
theorem last_failure_reaches_caller (u : UseCase) {log : List Exchange} {r : Request} {f : Failure}
    {outcome : u.Outcome} (hruns : u.program.Runs log outcome)
    (hlast : Exchange.lastFailure? log = some (r, f)) :
    (∃ e : u.Error, outcome = .error e ∧ u.vocabulary.code e = f.code ∧
      (∀ own, u.vocabulary.own? r f = some own → e = own) ∧
      (u.vocabulary.own? r f = none → u.vocabulary.toFailure e = f)) ∧
    ∀ log', List.Forall₂ Exchange.SameButRefund log log' → u.program.Runs log' outcome := by
  refine ⟨⟨u.vocabulary.told r f, ?_, u.vocabulary.code_told r f, ?_, ?_⟩, ?_⟩
  · refine (u.obeys_paying.of_runs hruns fun _ _ => trivial).2 _ ?_
    rw [Vocabulary.paying, u.vocabulary.owedAfter_foldl, hlast]
    rfl
  · intro own hown
    exact u.vocabulary.told_of_own? hown
  · intro hnone
    rw [u.vocabulary.told_of_not_own hnone, u.vocabulary.toFailure_external]
  · intro log' halike
    exact u.follows.runs_of_sameButRefund hruns halike

/-- A charged subscription that the store refuses for another active one, and a refund that fails as
well: the caller learns of the other subscription, and would have if the refund had gone through. -/
theorem refused_subscriber_learns_of_conflict :
    let conflict : Failure := { code := .activeSubscriptionExists, message := "one is active" }
    let turns := Turn.inOrder .epoch [0, 0, 0, 0, 0] ++
      [{ task := 0, now := .epoch, fault := some (.fails .createSubscription conflict) },
        { task := 0, now := .epoch, fault := some (.fails .refund (Failure.database "gone")) }]
    let s := (Scene.start World.kiosk [.subscribe ⟨7⟩ ⟨1⟩]).run Services.lenient turns
    ∃ t ∈ s.tasks, t.failure? = some (.alreadySubscribed ⟨7⟩) ∧
      ∃ e, t.outcome? = some (.error e) ∧
        t.useCase.vocabulary.code e = .activeSubscriptionExists ∧
        ∀ log, List.Forall₂ Exchange.SameButRefund t.log log →
          t.useCase.program.Runs log (.error e) := by
  intro conflict turns s
  have hfound : ∃ t ∈ s.tasks, t.failure? = some (.alreadySubscribed ⟨7⟩) ∧
      (Exchange.lastFailure? t.log).map Prod.snd = some conflict := by decide +kernel
  obtain ⟨t, ht, hfailure, hconflict⟩ := hfound
  obtain ⟨⟨r, _⟩, hlast, rfl⟩ := Option.map_eq_some_iff.mp hconflict
  cases houtcome : t.outcome? with
  | none => simp [Task.failure?, houtcome] at hfailure
  | some outcome =>
    have hruns := (Scene.onTrack_run _ _ _ turns t ht).runs houtcome
    obtain ⟨⟨e, rfl, hcode, -⟩, halike⟩ := t.useCase.last_failure_reaches_caller hruns hlast
    exact ⟨t, ht, hfailure, e, houtcome, hcode, halike⟩

end UseCase

end RecurringBilling
