import RecurringBilling.Proofs.Interleaving.FailedCalls
import RecurringBilling.Proofs.Subscription.Stamps

/-!
# Visits

In a visit one use case is carried out alone, in turns of its own, and whatever becomes of it,
the next visit finds the world that it leaves.  The stores stay in order.  No use case
replaces or removes a plan, so plans stay as they are, and so does every subscription that
the use case is not about.
-/

namespace RecurringBilling

open RecurringBilling.Calendar

/-! ## Plans -/

namespace PlanStore

/-- The store is the outcome of creating, replacing and removing plans. -/
inductive Filled : PlanStore → Prop
  | empty : Filled {}
  | create {s : PlanStore} (h : Filled s) (plan : Plan) : Filled (PlanStore.create s plan).2
  | update {s : PlanStore} (h : Filled s) (plan : Plan) : Filled (PlanStore.update s plan).2
  | delete {s : PlanStore} (h : Filled s) (id : PlanId) : Filled (PlanStore.delete s id).2

theorem Filled.ordered {s : PlanStore} (h : Filled s) : s.Ordered := by
  induction h with
  | empty => exact Store.ordered_empty
  | create h plan ih => exact ih.add fun id => plan.withId ⟨id⟩
  | update h plan ih =>
    unfold PlanStore.update
    split
    · next hthere => exact ih.put hthere _
    · exact ih
  | delete h id ih => exact ih.remove id.value

/-- Every plan is still there as it was. -/
def Keeps (s s' : PlanStore) : Prop := ∀ id p, findById s id = some p → findById s' id = some p

theorem keeps_create {s : PlanStore} (h : s.Ordered) (plan : Plan) : Keeps s (create s plan).2 := by
  intro id p hp
  have hissued := h.issued_of_find? hp
  rw [findById, create, Store.find?_add, if_neg (by omega)]
  exact hp

end PlanStore

/-! ## Worlds in order -/

namespace World

/-- Plans and subscriptions stand under their numbers. -/
structure InOrder (w : World) : Prop where
  plans : w.plans.Ordered
  subscriptions : SubscriptionStore.WellFormed w.subscriptions

theorem InOrder.serve {w : World} (h : w.InOrder) (sv : Services) (r : Request) :
    (w.serve sv r).2.InOrder where
  plans := by
    by_cases hr : r.writesPlan = false
    · rw [serve_plans sv w hr]
      exact h.plans
    · cases r with
      | createPlan plan => exact h.plans.add fun id => plan.withId ⟨id⟩
      | _ => exact absurd rfl hr
  subscriptions := by
    rw [serve_subscriptions]
    cases r.storeCall? with
    | none => exact h.subscriptions
    | some call => exact SubscriptionStore.Call.wellFormed_after h.subscriptions call

theorem InOrder.keeps_serve {w : World} (h : w.InOrder) (sv : Services) (r : Request) :
    PlanStore.Keeps w.plans (w.serve sv r).2.plans := by
  by_cases hr : r.writesPlan = false
  · rw [serve_plans sv w hr]
    exact fun _ _ hp => hp
  · cases r with
    | createPlan plan => exact PlanStore.keeps_create h.plans plan
    | _ => exact absurd rfl hr

end World

/-! ## One visit -/

/-- A use case that is carried out alone, and the turns that it gets. -/
structure Visit where
  useCase : UseCase
  turns : List Turn

/-- What a visit leads to. -/
def World.visit (sv : Services) (w : World) (v : Visit) : Scene :=
  (Scene.start w [v.useCase]).run sv v.turns

/-- The world after visits that follow one another. -/
def World.afterVisits (sv : Services) (w : World) : List Visit → World
  | [] => w
  | v :: rest => (w.visit sv v).world.afterVisits sv rest

/-- A replacement has the identifier and the origin of what it replaces, and its end unless a
renewal whose charge was not declined puts it there. -/
theorem UseCase.Replaces.sameOrigin {u : UseCase} {declined : Option String}
    {before after : Subscription} (h : u.Replaces declined before after) :
    after.id = before.id ∧ before.SameOrigin after ∧
      (after.endDate = before.endDate ∨ ∃ id, u = .renew id ∧ declined = none) := by
  rcases h.cases with ⟨_, _, _, _, -, -, rfl⟩ | ⟨_, _, _, -, rfl⟩ | ⟨_, _, _, -, -, rfl⟩ |
    ⟨id, _, _, hu, hdeclined, rfl⟩
  · exact ⟨rfl, ⟨rfl, rfl, rfl, rfl⟩, Or.inl rfl⟩
  · exact ⟨rfl, ⟨rfl, rfl, rfl, rfl⟩, Or.inl rfl⟩
  · exact ⟨rfl, ⟨rfl, rfl, rfl, rfl⟩, Or.inl rfl⟩
  · exact ⟨rfl, ⟨rfl, rfl, rfl, rfl⟩, Or.inr ⟨id, hu, hdeclined⟩⟩

namespace Scene

variable {sv : Services} {w : World} {s : Scene}

/-- No turn takes a plan away or a store out of order. -/
theorem inOrder_step (h : s.world.InOrder) (sv : Services) (turn : Turn) :
    (s.step sv turn).world.InOrder ∧
      PlanStore.Keeps s.world.plans (s.step sv turn).world.plans := by
  have hfacing : (s.world.facing turn).InOrder := ⟨h.plans, h.subscriptions⟩
  rcases s.step_cases sv turn with hidle | ⟨t, r, next, -, -, hserved | hstruck⟩
  · rw [hidle]
    exact ⟨h, fun _ _ hp => hp⟩
  · rw [hserved]
    exact ⟨hfacing.serve sv r, hfacing.keeps_serve sv r⟩
  · obtain ⟨fault, answer, -, -, hstep⟩ := hstruck
    rw [hstep]
    exact ⟨⟨h.plans, h.subscriptions⟩, fun _ _ hp => hp⟩

theorem inOrder_run (h : s.world.InOrder) (sv : Services) (turns : List Turn) :
    (s.run sv turns).world.InOrder ∧
      PlanStore.Keeps s.world.plans (s.run sv turns).world.plans := by
  refine run_invariant
    (I := fun x => x.world.InOrder ∧ PlanStore.Keeps s.world.plans x.world.plans)
    ⟨h, fun _ _ hp => hp⟩ ?_
  rintro x turn - ⟨horder, hkeeps⟩
  obtain ⟨hnext, hkept⟩ := inOrder_step horder sv turn
  exact ⟨hnext, fun id p hp => hkept id p (hkeeps id p hp)⟩

/-- Whoever replaces a row is about that row. -/
theorem Alone.id_of_update (h : s.Alone w) (hw : w.InOrder) {t : Task} (ht : t ∈ s.tasks)
    {c : Subscription} {next : (Request.updateSubscription c).Answer → Program t.useCase.Outcome}
    (hrest : t.rest = .call (.updateSubscription c) next) : t.useCase.target? = some c.id := by
  obtain ⟨-, before, hloaded, hreplaces⟩ := (h.obeys t ht).permits hrest
  obtain ⟨id, htarget, hfound⟩ := h.loaded t ht before hloaded
  rw [htarget, hreplaces.sameOrigin.1, hw.subscriptions.named id.value before hfound]

/-- A turn of a use case about something else leaves a row as it is. -/
theorem Alone.findById_of_other (h : s.Alone w) (hw : w.InOrder) (hs : s.world.InOrder)
    {id : SubscriptionId} {row : Subscription}
    (hrow : SubscriptionStore.findById s.world.subscriptions id = some row)
    (hother : ∀ t ∈ s.tasks, t.useCase.target? ≠ some id) (turn : Turn) :
    SubscriptionStore.findById (s.step sv turn).world.subscriptions id = some row := by
  rcases s.step_subscriptions sv turn with hsame | ⟨t, r, next, call, htask, hrest, hcall, hafter⟩
  · rw [hsame, hrow]
  · have ht := List.mem_of_getElem? htask
    rw [hafter]
    cases r with
    | createSubscription c =>
      cases hcall
      exact SubscriptionStore.find?_after_create hs.subscriptions c hrow
    | updateSubscription c =>
      cases hcall
      have hne : id.value ≠ c.id.value := by
        intro heq
        apply hother t ht
        rw [h.id_of_update hw ht hrest]
        exact congrArg (fun n => some (SubscriptionId.mk n)) heq.symm
      cases hthere : s.world.subscriptions.contains c.id.value with
      | false =>
        rw [SubscriptionStore.Call.after_eq_of_apply
          (SubscriptionStore.Call.apply_update_of_not_contains hthere)]
        exact hrow
      | true =>
        obtain ⟨x, hx⟩ := Option.isSome_iff_exists.mp hthere
        rcases SubscriptionStore.find?_after_update hx id.value with hsame | ⟨hid, -⟩
        · exact hsame.trans hrow
        · exact absurd hid hne
    | _ => cases hcall

/-- A subscription stays as it is as long as a use case about something else is carried out. -/
theorem findById_of_other (hw : w.InOrder) {u : UseCase} {id : SubscriptionId}
    (hother : u.target? ≠ some id) {row : Subscription}
    (hrow : SubscriptionStore.findById w.subscriptions id = some row) (turns : List Turn) :
    SubscriptionStore.findById ((start w [u]).run sv turns).world.subscriptions id = some row := by
  refine (run_invariant
    (I := fun s => (s.Alone w ∧ s.world.InOrder ∧ s.tasks.map Task.useCase = [u]) ∧
      SubscriptionStore.findById s.world.subscriptions id = some row)
    ⟨⟨alone_start w u, hw, rfl⟩, hrow⟩ ?_).2
  rintro s turn - ⟨⟨halone, horder, hcalls⟩, hfound⟩
  have hothers : ∀ t ∈ s.tasks, t.useCase.target? ≠ some id := by
    intro t ht
    have hmem := List.mem_map_of_mem (f := Task.useCase) ht
    rw [hcalls, List.mem_singleton] at hmem
    rw [hmem]
    exact hother
  refine ⟨⟨halone.step sv turn, (inOrder_step horder sv turn).1, ?_⟩,
    halone.findById_of_other hw horder hfound hothers turn⟩
  rw [step_useCases, hcalls]

end Scene

end RecurringBilling
