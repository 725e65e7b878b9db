import RecurringBilling.Proofs.Interleaving.Grounds
import RecurringBilling.Proofs.Interleaving.Serve
import RecurringBilling.Proofs.Store.Refusal

/-!
# Rows under interleaving

A turn changes the store of subscriptions through at most one of its calls.  Use cases
that ask with grounds create rows without bringing an identifier along and replace rows
that they loaded, so each row keeps its user, the store stays well formed, and no
user ever has two active rows.
-/

namespace RecurringBilling

open RecurringBilling.Calendar

/-- The call on the store of subscriptions that a request makes. -/
def Request.storeCall? : Request → Option SubscriptionStore.Call
  | .createSubscription s => some (.create s)
  | .updateSubscription s => some (.update s)
  | _ => none

namespace World

/-- Only a call on the store of subscriptions changes it. -/
theorem serve_subscriptions (sv : Services) (w : World) (r : Request) :
    (w.serve sv r).2.subscriptions =
      match r.storeCall? with
      | none => w.subscriptions
      | some call => call.after w.subscriptions := by
  cases r with
  | createAccount | updateAccount | charge | refund =>
    exact written_congr World.subscriptions fun _ => rfl
  | _ => rfl

end World

namespace SubscriptionStore

/-- Every row is still there and belongs to the user it belonged to. -/
def KeepsOwners (s s' : SubscriptionStore) : Prop :=
  ∀ k x, s.find? k = some x → ∃ x', s'.find? k = some x' ∧ x'.user = x.user

theorem KeepsOwners.refl (s : SubscriptionStore) : KeepsOwners s s :=
  fun _ x hx => ⟨x, hx, rfl⟩

/-- A new row stands under a number that no row has yet, so every other row stays as it is. -/
theorem find?_after_create {s : SubscriptionStore} (h : WellFormed s) (c : Subscription) {k : Nat}
    {x : Subscription} (hx : s.find? k = some x) :
    ((Call.create c).after s).find? k = some x := by
  rcases Call.after_cases s (.create c) with hsame | hunchecked
  · rw [hsame, hx]
  · have hissued := h.ordered.issued_of_find? hx
    rw [hunchecked, Call.unchecked, Store.find?_add, if_neg (by omega), hx]

theorem keepsOwners_create {s : SubscriptionStore} (h : WellFormed s) (c : Subscription) :
    KeepsOwners s ((Call.create c).after s) :=
  fun _ x hx => ⟨x, find?_after_create h c hx, rfl⟩

/-- An update leaves every row as it is, or replaces the row of its identifier and no other one. -/
theorem find?_after_update {s : SubscriptionStore} {c x : Subscription}
    (hx : s.find? c.id.value = some x) (k : Nat) :
    ((Call.update c).after s).find? k = s.find? k ∨
      k = c.id.value ∧ ((Call.update c).after s).find? k = some c := by
  rcases Call.after_cases s (.update c) with hsame | hunchecked
  · exact Or.inl (by rw [hsame])
  · rw [hunchecked, Call.unchecked_update (by rw [Store.contains, hx]; rfl), Store.find?_put]
    by_cases hk : k = c.id.value
    · exact Or.inr ⟨hk, if_pos hk⟩
    · exact Or.inl (if_neg hk)

theorem keepsOwners_update {s : SubscriptionStore} {c x : Subscription}
    (hx : s.find? c.id.value = some x) (huser : c.user = x.user) :
    KeepsOwners s ((Call.update c).after s) := by
  intro k y hy
  rcases find?_after_update hx k with hsame | ⟨hk, hnew⟩
  · exact ⟨y, hsame.trans hy, rfl⟩
  · rw [hk, hx] at hy
    cases hy
    exact ⟨c, hnew, huser⟩

end SubscriptionStore

namespace Task

/-- Each row that the use case was told about is still there, under the identifier that was looked
up, and belongs to the same user. -/
def Knows (s : SubscriptionStore) (t : Task) : Prop :=
  ∀ id before, Told t.log (.findSubscription id) (.ok (some before)) →
    before.id = id ∧ ∃ x, s.find? id.value = some x ∧ x.user = before.user

theorem Knows.keepsOwners {s s' : SubscriptionStore} {t : Task} (h : t.Knows s)
    (hkeeps : SubscriptionStore.KeepsOwners s s') : t.Knows s' := by
  intro id before htold
  obtain ⟨hid, x, hx, huser⟩ := h id before htold
  obtain ⟨x', hx', huser'⟩ := hkeeps id.value x hx
  exact ⟨hid, x', hx', huser'.trans huser⟩

end Task

namespace Scene

/-- The store is well formed, and every use case asks with grounds and knows its rows. -/
structure Tended (s : Scene) : Prop where
  wellFormed : SubscriptionStore.WellFormed s.world.subscriptions
  grounded : ∀ t ∈ s.tasks, t.Grounded
  knows : ∀ t ∈ s.tasks, t.Knows s.world.subscriptions

theorem tended_start {w : World} (hw : SubscriptionStore.WellFormed w.subscriptions)
    {calls : List UseCase} (hcalls : ∀ u ∈ calls, u.isSubscriptionWork = true) :
    (Scene.start w calls).Tended where
  wellFormed := hw
  grounded := forall_mem_start w fun u hu => Task.grounded_start (hcalls u hu)
  knows := by
    refine forall_mem_start w fun u _ => ?_
    rintro id before ⟨injected, hmem⟩
    simp [Task.start] at hmem

/-- The store after a turn is the store before it, or the store after the call of the task whose
turn it is. -/
theorem step_subscriptions (sv : Services) (s : Scene) (turn : Turn) :
    (s.step sv turn).world.subscriptions = s.world.subscriptions ∨
      ∃ t r next call, s.tasks[turn.task]? = some t ∧ t.rest = .call r next ∧
        r.storeCall? = some call ∧
        (s.step sv turn).world.subscriptions = call.after s.world.subscriptions := by
  refine step_calls World.subscriptions Request.storeCall? (fun call store => call.after store)
    (fun _ _ => rfl) (fun w r => ?_) s turn
  rw [World.serve_subscriptions]
  cases r.storeCall? <;> rfl

variable {s : Scene}

theorem wellFormed_step (h : SubscriptionStore.WellFormed s.world.subscriptions) (sv : Services)
    (turn : Turn) : SubscriptionStore.WellFormed (s.step sv turn).world.subscriptions := by
  rcases s.step_subscriptions sv turn with hsame | ⟨_, _, _, call, -, -, -, hafter⟩
  · rw [hsame]
    exact h
  · rw [hafter]
    exact SubscriptionStore.Call.wellFormed_after h call

/-- Whoever replaces a row is about that row and has loaded it, and leaves it to its user. -/
theorem Tended.row_of_update (h : s.Tended) {t : Task} (ht : t ∈ s.tasks) {c : Subscription}
    {next : (Request.updateSubscription c).Answer → Program t.useCase.Outcome}
    (hrest : t.rest = .call (.updateSubscription c) next) :
    t.useCase.target? = some c.id ∧
      ∃ before x, Told t.log (.findSubscription c.id) (.ok (some before)) ∧
        s.world.subscriptions.find? c.id.value = some x ∧
        c.user = before.user ∧ x.user = before.user := by
  obtain ⟨id, before, htarget, htold, hid, huser, -⟩ := (h.grounded t ht).obeys.grounds hrest
  obtain ⟨hbefore, x, hx, hxuser⟩ := h.knows t ht id before htold
  have hc : id = c.id := hbefore.symm.trans hid.symm
  subst hc
  exact ⟨htarget, before, x, htold, hx, huser, hxuser⟩

theorem Tended.keepsOwners (h : s.Tended) (sv : Services) (turn : Turn) :
    SubscriptionStore.KeepsOwners s.world.subscriptions (s.step sv turn).world.subscriptions := by
  rcases s.step_subscriptions sv turn with hsame | ⟨t, r, next, call, htask, hrest, hcall, hafter⟩
  · rw [hsame]
    exact SubscriptionStore.KeepsOwners.refl _
  · rw [hafter]
    cases r with
    | createSubscription c =>
      cases hcall
      exact SubscriptionStore.keepsOwners_create h.wellFormed c
    | updateSubscription c =>
      cases hcall
      obtain ⟨-, before, x, -, hx, huser, hxuser⟩ :=
        h.row_of_update (List.mem_of_getElem? htask) hrest
      exact SubscriptionStore.keepsOwners_update hx (huser.trans hxuser.symm)
    | _ => cases hcall

theorem Tended.step (h : s.Tended) (sv : Services) (turn : Turn) : (s.step sv turn).Tended where
  wellFormed := wellFormed_step h.wellFormed sv turn
  grounded := step_tasks h.grounded fun t ht r next answer injected hrest _ hgrounded =>
    hgrounded.advance hrest answer injected
  knows := by
    have hkeeps := h.keepsOwners sv turn
    refine step_tasks (fun t ht => (h.knows t ht).keepsOwners hkeeps) ?_
    intro t ht r next answer injected hrest hreply hknows id before htold
    rcases Told.of_concat htold with hearlier | ⟨injected', hlast⟩
    · exact hknows id before hearlier
    · cases hlast
      -- what the world finds under an identifier carries that identifier
      have hfind := findById_of_reply hreply
      obtain ⟨x, hx, huser⟩ := hkeeps id.value before hfind
      exact ⟨h.wellFormed.named id.value before hfind, x, hx, huser⟩

/-- A new row without an identifier of its own readds no row. -/
theorem Tended.step_oneActive (h : s.Tended)
    (hone : SubscriptionStore.OneActive s.world.subscriptions) (sv : Services) (turn : Turn) :
    SubscriptionStore.OneActive (s.step sv turn).world.subscriptions := by
  rcases s.step_subscriptions sv turn with hsame | ⟨t, r, next, call, htask, hrest, hcall, hafter⟩
  · rw [hsame]
    exact hone
  · rw [hafter, SubscriptionStore.Call.oneActive_after_iff h.wellFormed hone]
    have hgrounds := (h.grounded t (List.mem_of_getElem? htask)).obeys.grounds hrest
    cases r with
    | createSubscription c =>
      cases hcall
      exact SubscriptionStore.Call.not_readds_of_unassigned h.wellFormed hgrounds.1
    | updateSubscription c =>
      cases hcall
      rfl
    | _ => cases hcall

theorem Tended.run_oneActive (h : s.Tended)
    (hone : SubscriptionStore.OneActive s.world.subscriptions) (sv : Services)
    (turns : List Turn) : SubscriptionStore.OneActive (s.run sv turns).world.subscriptions := by
  refine (run_invariant
    (I := fun s => s.Tended ∧ SubscriptionStore.OneActive s.world.subscriptions)
    ⟨h, hone⟩ ?_).2
  intro s turn _ hs
  exact ⟨hs.1.step sv turn, hs.1.step_oneActive hs.2 sv turn⟩

end Scene

/-- The kiosk with one subscriber, whose period ends at the epoch. -/
def World.subscribedKiosk : World :=
  { World.kiosk with
    subscriptions := SubscriptionStore.run
      [.create { SubscriptionStore.freshActive ⟨7⟩ with endDate := some .epoch }] }

end RecurringBilling
