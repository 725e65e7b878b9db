import RecurringBilling.Failure
import RecurringBilling.Store.Basic
import RecurringBilling.Subscription.Basic

/-!
# The store of subscriptions

A write is refused when the subscription to be written is active and another
one, under another identifier, is active for the same user.  The identifier that
counts is the one the written subscription carries, also for a new one.  A call
gives its outcome and the store after it, also where it is refused.
-/

namespace RecurringBilling

/-- Subscriptions under their identifiers. -/
abbrev SubscriptionStore := Store Subscription

namespace SubscriptionStore

/-- No subscription has the identifier. -/
def notFound (id : SubscriptionId) : Failure :=
  { code := .subscriptionNotFound, message := "subscription not found: " ++ id.numeral }

/-- The user has an active subscription. -/
def secondActive (user : UserId) : Failure :=
  { code := .activeSubscriptionExists
    message := "user already has an active subscription: " ++ user.numeral }

/-- Writing the candidate would put it beside another active subscription of its
user. -/
def hasOtherActive (s : SubscriptionStore) (candidate : Subscription) : Bool :=
  candidate.isActive &&
    s.values.any fun x => x.id != candidate.id && x.user == candidate.user && x.isActive

/-- Stores a new subscription under the next identifier. -/
def create (s : SubscriptionStore) (candidate : Subscription) :
    Except Failure Subscription × SubscriptionStore :=
  -- the check goes by the identifier that the candidate brings along, not by the one it gets
  if hasOtherActive s candidate then (.error (secondActive candidate.user), s)
  else
    let (stored, s) := s.add fun id => candidate.withId ⟨id⟩
    (.ok stored, s)

/-- Replaces the subscription that has the same identifier. -/
def update (s : SubscriptionStore) (candidate : Subscription) :
    Except Failure Unit × SubscriptionStore :=
  if !s.contains candidate.id.value then (.error (notFound candidate.id), s)
  else if hasOtherActive s candidate then (.error (secondActive candidate.user), s)
  else (.ok (), s.put candidate.id.value candidate)

/-- Removes a subscription.  The outcome tells whether there was one. -/
def delete (s : SubscriptionStore) (id : SubscriptionId) :
    Except Failure Unit × SubscriptionStore :=
  (if s.contains id.value then .ok () else .error (notFound id), s.remove id.value)

/-- Looks a subscription up. -/
def findById (s : SubscriptionStore) (id : SubscriptionId) : Option Subscription :=
  s.find? id.value

/-- Every subscription of a user, in the order of the identifiers. -/
def findByUser (s : SubscriptionStore) (user : UserId) : List Subscription :=
  s.values.filter fun x => x.user == user

/-- The first active subscription of a user. -/
def findActiveByUser (s : SubscriptionStore) (user : UserId) : Option Subscription :=
  s.values.find? fun x => x.user == user && x.isActive

/-! ## Refused calls -/

variable {s s' : SubscriptionStore} {f : Failure}

theorem eq_of_create_error {candidate : Subscription}
    (h : create s candidate = (.error f, s')) : s' = s := by
  unfold create at h
  split at h
  · cases h
    rfl
  · cases h

theorem eq_of_update_error {candidate : Subscription}
    (h : update s candidate = (.error f, s')) : s' = s := by
  unfold update at h
  split at h
  · cases h
    rfl
  · split at h
    · cases h
      rfl
    · cases h

theorem eq_of_delete_error {id : SubscriptionId} (h : delete s id = (.error f, s')) : s' = s := by
  unfold delete at h
  split at h
  · cases h
  · next habsent =>
    cases h
    exact Store.remove_of_not_contains (by simpa using habsent)

end SubscriptionStore

end RecurringBilling
