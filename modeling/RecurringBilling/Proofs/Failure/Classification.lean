import RecurringBilling.Billing.Error
import RecurringBilling.Identity.Error

/-!
# Codes and kinds of errors

The billing and the identity side give each of their errors a code and a kind, and go about the two
separately.  The kind is always the one that the code belongs to, and an error that is handed on as
a failure, and taken up from there again, has the code and the kind that it had before.  The billing
side takes up a failure as it is; the identity side has errors of its own for some failures and
keeps no more of these than the code.
-/

namespace RecurringBilling

/-- How the errors of one side are classified, and how they become failures and come from them. -/
structure Classification (ε : Type) where
  code : ε → FailureCode
  kind : ε → FailureKind
  toFailure : ε → Failure
  ofFailure : Failure → ε
  kind_eq : ∀ e, kind e = (code e).kind
  code_toFailure : ∀ e, (toFailure e).code = code e
  code_ofFailure : ∀ f, code (ofFailure f) = f.code

namespace Classification

variable {ε : Type} (c : Classification ε)

/-- Kind and code agree, and neither changes on the way to a failure or on the way back. -/
structure Keeps (e : ε) : Prop where
  agree : c.kind e = (c.code e).kind
  code_there : (c.toFailure e).code = c.code e
  kind_there : (c.toFailure e).kind = c.kind e
  code_back : c.code (c.ofFailure (c.toFailure e)) = c.code e
  kind_back : c.kind (c.ofFailure (c.toFailure e)) = c.kind e

theorem kind_toFailure (e : ε) : (c.toFailure e).kind = c.kind e := by
  rw [Failure.kind, c.code_toFailure, c.kind_eq]

theorem kind_ofFailure (f : Failure) : c.kind (c.ofFailure f) = f.kind := by
  rw [c.kind_eq, c.code_ofFailure, Failure.kind]

theorem keeps (e : ε) : c.Keeps e where
  agree := c.kind_eq e
  code_there := c.code_toFailure e
  kind_there := c.kind_toFailure e
  code_back := (c.code_ofFailure _).trans (c.code_toFailure e)
  kind_back := (c.kind_ofFailure _).trans (c.kind_toFailure e)

theorem code_toFailure_ofFailure (f : Failure) : (c.toFailure (c.ofFailure f)).code = f.code :=
  (c.code_toFailure _).trans (c.code_ofFailure f)

end Classification

/-! ## The two sides -/

namespace BillingError

theorem kind_eq_kind_code (e : BillingError) : e.kind = e.code.kind := by
  cases e <;> rfl

theorem code_toFailure (e : BillingError) : e.toFailure.code = e.code := by
  cases e <;> rfl

theorem toFailure_ofFailure (f : Failure) : (ofFailure f).toFailure = f := rfl

/-- Only the infrastructure gives a reason to try again. -/
theorem kind_of_isRetryable {e : BillingError} (h : e.isRetryable = true) :
    e.kind = .infrastructure := by
  cases e with
  | paymentFailed | infrastructure => rfl
  | external f =>
    have hcode : f.code = .databaseError := by simpa [isRetryable] using h
    rw [kind, Failure.kind, hcode]
    rfl
  | _ => cases h

end BillingError

namespace IdentityError

theorem kind_eq_kind_code (e : IdentityError) : e.kind = e.code.kind := by
  cases e <;> rfl

theorem code_toFailure (e : IdentityError) : e.toFailure.code = e.code := by
  cases e <;> rfl

/-- The errors that take the place of a failure have its code. -/
theorem code_ofFailure (f : Failure) : (ofFailure f).code = f.code := by
  unfold ofFailure
  split
  · next hcode => exact hcode.symm
  · next hcode => exact hcode.symm
  · rfl

end IdentityError

/-- How the billing side classifies its errors. -/
def Classification.billing : Classification BillingError where
  code := BillingError.code
  kind := BillingError.kind
  toFailure := BillingError.toFailure
  ofFailure := BillingError.ofFailure
  kind_eq := BillingError.kind_eq_kind_code
  code_toFailure := BillingError.code_toFailure
  code_ofFailure := fun _ => rfl

/-- How the identity side classifies its errors. -/
def Classification.identity : Classification IdentityError where
  code := IdentityError.code
  kind := IdentityError.kind
  toFailure := IdentityError.toFailure
  ofFailure := IdentityError.ofFailure
  kind_eq := IdentityError.kind_eq_kind_code
  code_toFailure := IdentityError.code_toFailure
  code_ofFailure := IdentityError.code_ofFailure

/-- The classifications of errors commute with every way of handing them on.  A billing error that
is worth another try is a matter of infrastructure.  A failure that becomes a billing error and a
failure again is the same one, and one that becomes an identity error has its code. -/
theorem classifications_commute :
    (∀ e : BillingError, Classification.billing.Keeps e ∧
        (e.isRetryable = true → e.kind = .infrastructure)) ∧
      (∀ e : IdentityError, Classification.identity.Keeps e) ∧
      ∀ f : Failure, (BillingError.ofFailure f).toFailure = f ∧
        (IdentityError.ofFailure f).toFailure.code = f.code := by
  refine ⟨fun e => ⟨Classification.billing.keeps e, BillingError.kind_of_isRetryable⟩,
    Classification.identity.keeps, fun f => ⟨BillingError.toFailure_ofFailure f, ?_⟩⟩
  exact Classification.identity.code_toFailure_ofFailure f

/-- A lost connection is worth another try. -/
theorem lost_connection_is_infrastructure :
    (BillingError.external (.database "connection reset")).isRetryable = true ∧
      (BillingError.external (.database "connection reset")).kind = .infrastructure :=
  ⟨rfl, (classifications_commute.1 _).2 rfl⟩

end RecurringBilling
