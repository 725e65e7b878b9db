import RecurringBilling.Proofs.Interleaving.Rows
import RecurringBilling.Proofs.Interleaving.Sessions
import RecurringBilling.Proofs.Store.UserRows

/-!
# For whom a use case works

A use case that writes subscriptions works for one user: for the one it subscribes, or for the
one to whom the subscription belongs that it is about.  As rows keep their users, it works for
the same user all along, and whatever becomes of it, the rows of all other users stay as they
are.
-/

namespace RecurringBilling

open RecurringBilling.Calendar

namespace UseCase

/-- The user for whom a use case writes subscriptions.  There is none if it is about a
subscription that is not there. -/
def ownerIn (s : SubscriptionStore) : UseCase → Option UserId
  | .subscribe user _ => some user
  | .changeStatus id _ | .changeAutoRenew id _ | .renew id =>
    (SubscriptionStore.findById s id).map Subscription.user
  | _ => none

variable {s : SubscriptionStore} {u : UseCase} {user : UserId}

theorem isSubscriptionWork_of_ownerIn (h : u.ownerIn s = some user) :
    u.isSubscriptionWork = true := by
  cases u with
  | subscribe | changeStatus | changeAutoRenew | renew => rfl
  | _ => cases h

theorem ownerIn_of_target {id : SubscriptionId} (h : u.target? = some id) :
    u.ownerIn s = (SubscriptionStore.findById s id).map Subscription.user := by
  cases u with
  | changeStatus | changeAutoRenew | renew =>
    cases h
    rfl
  | _ => cases h

/-- A use case works for the same user as long as rows keep their users. -/
theorem ownerIn_of_keepsOwners {s' : SubscriptionStore}
    (hkeeps : SubscriptionStore.KeepsOwners s s') (h : u.ownerIn s = some user) :
    u.ownerIn s' = some user := by
  cases htarget : u.target? with
  | none =>
    -- it subscribes the user, whatever is stored
    cases u with
    | subscribe => exact h
    | changeStatus | changeAutoRenew | renew => cases htarget
    | _ => cases h
  | some id =>
    rw [ownerIn_of_target htarget] at h ⊢
    obtain ⟨x, hx, hxuser⟩ := Option.map_eq_some_iff.mp h
    obtain ⟨x', hx', huser⟩ := hkeeps id.value x hx
    rw [SubscriptionStore.findById, hx', Option.map_some, huser, hxuser]

/-- Where a user has the same rows, the same use cases are for that user. -/
theorem ownerIn_of_sameRows {s' : SubscriptionStore}
    (hrows : SubscriptionStore.SameRows user s s') (u : UseCase) :
    u.ownerIn s' = some user ↔ u.ownerIn s = some user := by
  cases htarget : u.target? with
  | none =>
    cases u with
    | changeStatus | changeAutoRenew | renew => cases htarget
    | _ => exact Iff.rfl
  | some id =>
    rw [ownerIn_of_target htarget, ownerIn_of_target htarget, Option.map_eq_some_iff,
      Option.map_eq_some_iff]
    exact exists_congr fun x => and_congr_left fun hx => (hrows id.value x hx).symm

end UseCase

/-! ## Rows of other users -/

namespace SubscriptionStore

variable {s : SubscriptionStore} {c : Subscription} {other : UserId}

theorem sameRows_create (h : WellFormed s) (hc : c.user ≠ other) :
    SameRows other s ((Call.create c).after s) := by
  rcases Call.after_cases s (.create c) with hsame | hunchecked
  · rw [hsame]
    exact SameRows.refl other s
  · intro k x hx
    rw [hunchecked, Call.unchecked, Store.find?_add]
    split
    · next hk =>
      -- the number is new, and the row that gets it is not one of this user
      constructor
      · intro hfind
        have hissued := h.ordered.issued_of_find? hfind
        omega
      · intro hnew
        cases hnew
        exact absurd hx hc
    · exact Iff.rfl

theorem sameRows_update {before : Subscription} (hbefore : s.find? c.id.value = some before)
    (huser : before.user ≠ other) (hc : c.user ≠ other) :
    SameRows other s ((Call.update c).after s) := by
  intro k x hx
  rcases find?_after_update hbefore k with hsame | ⟨hk, hnew⟩
  · rw [hsame]
  · rw [hnew, hk, hbefore]
    -- neither the old row nor the new one is one of this user
    constructor
    · intro hfind
      cases hfind
      exact absurd hx huser
    · intro hfind
      cases hfind
      exact absurd hx hc

end SubscriptionStore

namespace Scene

/-- The use cases write subscriptions, all of them for one user. -/
structure WorksFor (user : UserId) (s : Scene) : Prop where
  tended : s.Tended
  owner : ∀ t ∈ s.tasks, t.useCase.ownerIn s.world.subscriptions = some user

variable {s : Scene} {user other : UserId}

theorem worksFor_start {w : World} (hw : SubscriptionStore.WellFormed w.subscriptions)
    {calls : List UseCase} (hcalls : ∀ u ∈ calls, u.ownerIn w.subscriptions = some user) :
    (Scene.start w calls).WorksFor user where
  tended := tended_start hw fun u hu => UseCase.isSubscriptionWork_of_ownerIn (hcalls u hu)
  owner := forall_mem_start w hcalls

theorem WorksFor.step (h : s.WorksFor user) (sv : Services) (turn : Turn) :
    (s.step sv turn).WorksFor user where
  tended := h.tended.step sv turn
  owner := by
    have hkeeps := h.tended.keepsOwners sv turn
    refine step_tasks (fun t ht => UseCase.ownerIn_of_keepsOwners hkeeps (h.owner t ht)) ?_
    intro t _ r next answer injected _ _ howner
    exact howner

/-- A turn of a use case for one user leaves the rows of another one as they are. -/
theorem WorksFor.sameRows_step (h : s.WorksFor user) (hne : user ≠ other) (sv : Services)
    (turn : Turn) :
    SubscriptionStore.SameRows other s.world.subscriptions
      (s.step sv turn).world.subscriptions := by
  rcases s.step_subscriptions sv turn with hsame | ⟨t, r, next, call, htask, hrest, hcall, hafter⟩
  · rw [hsame]
    exact SubscriptionStore.SameRows.refl other _
  · have ht := List.mem_of_getElem? htask
    have howner := h.owner t ht
    rw [hafter]
    cases r with
    | createSubscription c =>
      cases hcall
      obtain ⟨-, -, hu⟩ := (h.tended.grounded t ht).obeys.grounds hrest
      rw [hu] at howner
      cases howner
      exact SubscriptionStore.sameRows_create h.tended.wellFormed hne
    | updateSubscription c =>
      cases hcall
      obtain ⟨htarget, before, x, -, hx, hcuser, hxuser⟩ := h.tended.row_of_update ht hrest
      rw [UseCase.ownerIn_of_target htarget, SubscriptionStore.findById, hx] at howner
      cases howner
      have hc : c.user ≠ other := by rwa [hcuser, ← hxuser]
      exact SubscriptionStore.sameRows_update hx hne hc
    | _ => cases hcall

end Scene

/-! ## Sessions -/

namespace World

variable {w : World} {x : Session} {user other : UserId}

theorem wellFormed_afterSession (h : SubscriptionStore.WellFormed w.subscriptions) (sv : Services)
    (x : Session) : SubscriptionStore.WellFormed (w.afterSession sv x).subscriptions :=
  Scene.run_invariant (I := fun s => SubscriptionStore.WellFormed s.world.subscriptions) h
    fun _ turn _ hs => Scene.wellFormed_step hs sv turn

theorem view_afterSession {β : Type} (view : World → β) {sv : Services}
    (hfacing : ∀ w turn, view (World.facing w turn) = view w)
    (hserve : ∀ w r, view (World.serve sv w r).2 = view w) (w : World) (x : Session) :
    view (w.afterSession sv x) = view w :=
  Scene.run_invariant (I := fun s => view s.world = view w) rfl
    fun s turn _ hs => (Scene.step_view view hfacing hserve s turn).trans hs

/-- A session for one user leaves the plans and the rows of every other user as they are. -/
theorem frame_afterSession (hw : SubscriptionStore.WellFormed w.subscriptions)
    (hx : ∀ u ∈ x.useCases, u.ownerIn w.subscriptions = some user) (hne : user ≠ other)
    (sv : Services) :
    (w.afterSession sv x).plans = w.plans ∧
      SubscriptionStore.SameRows other w.subscriptions (w.afterSession sv x).subscriptions := by
  refine (Scene.run_invariant
    (I := fun s => s.WorksFor user ∧ s.world.plans = w.plans ∧
      SubscriptionStore.SameRows other w.subscriptions s.world.subscriptions)
    ⟨Scene.worksFor_start hw hx, rfl, .refl other _⟩ ?_).2
  rintro s turn - ⟨hworks, hplans, hrows⟩
  exact ⟨hworks.step sv turn, (Scene.step_plans hworks.tended.grounded sv turn).trans hplans,
    hrows.trans (hworks.sameRows_step hne sv turn)⟩

end World

end RecurringBilling
