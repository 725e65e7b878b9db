import RecurringBilling.Proofs.Interleaving.Grounds
import RecurringBilling.Proofs.Payment.Reconciliation

/-!
# Pricing

Nobody who works on subscriptions writes a plan, so every look-up of a plan has the
same answer throughout.  A charge therefore goes to the user of the subscription that
it is for, at the price that the store has for the plan of that subscription.
-/

namespace RecurringBilling

open RecurringBilling.Calendar

namespace Exchange

/-- A plan that was found is the stored one, and an accepted charge is on the terms of the
request. -/
def PricedBy (plans : PlanStore) : Exchange → Prop
  | { request := .findPlan id, answer := .ok found, injected := _ } =>
    found = PlanStore.findById plans id
  | { request := .charge s p, answer := .ok r, injected := _ } =>
    r.user = s.user ∧ r.cents = p.terms.amount.cents ∧ r.currency = p.terms.currency.code
  | _ => True

/-- The world answers at the prices of its plans, and a fault names no price. -/
theorem pricedBy_of_reply {sv : Services} {w : World} {turn : Turn} {r : Request}
    {answer : r.Answer} {injected : Bool} (h : Scene.Reply sv w turn r answer injected) :
    PricedBy w.plans { request := r, answer, injected } := by
  cases h with
  | served =>
    cases r with
    | findPlan id => exact rfl
    | charge s p =>
      cases hdecline : w.ledger.decline with
      | some reason =>
        rw [World.serve_charge_of_declining sv (w := w.facing turn) hdecline]
        exact trivial
      | none =>
        rw [World.serve_charge_of_accepting sv (w := w.facing turn) hdecline]
        exact ⟨rfl, rfl, rfl⟩
    | _ => exact trivial
  | struck hfault hanswer =>
    cases r with
    | findPlan id =>
      obtain ⟨f, -, rfl⟩ := Option.map_eq_some_iff.mp hanswer
      exact trivial
    | charge s p =>
      obtain ⟨f, -, rfl⟩ := Option.map_eq_some_iff.mp hanswer
      exact trivial
    | _ => exact trivial

end Exchange

namespace Task

/-- A receipt bears the user of the subscription for which the use case charges, and the amount and
the currency of the plan of that subscription. -/
def Billed (plans : PlanStore) (t : Task) (r : Receipt) : Prop :=
  ∃ s p, t.useCase.ChargesFor t.log s ∧ PlanStore.findById plans s.plan = some p ∧
    r.user = s.user ∧ r.cents = p.terms.amount.cents ∧ r.currency = p.terms.currency.code

theorem exists_charge_of_mem_charges {t : Task} {r : Receipt} (hr : r ∈ t.charges) :
    ∃ s p injected, { request := .charge s p, answer := .ok r, injected } ∈ t.log := by
  obtain ⟨⟨request, answer, injected⟩, he, hcharge⟩ := List.mem_filterMap.mp hr
  cases request with
  | charge s p =>
    cases answer with
    | error f => simp [Exchange.charge?] at hcharge
    | ok receipt =>
      have hreceipt : receipt = r := by simpa [Exchange.charge?] using hcharge
      subst hreceipt
      exact ⟨s, p, injected, he⟩
  | _ => simp [Exchange.charge?] at hcharge

/-- A use case that asks with grounds and is answered at the stored prices is billed at these. -/
theorem Grounded.billed {plans : PlanStore} {t : Task} (h : t.Grounded)
    (hpriced : ∀ e ∈ t.log, e.PricedBy plans) {r : Receipt} (hr : r ∈ t.charges) :
    t.Billed plans r := by
  obtain ⟨s, p, injected, hcharge⟩ := exists_charge_of_mem_charges hr
  obtain ⟨hfor, _, hplan⟩ := h.log _ hcharge
  -- the log still has the look-up of the plan, and what was found then is the stored plan
  have hstored : some p = PlanStore.findById plans s.plan := hpriced _ hplan
  exact ⟨s, p, hfor, hstored.symm, hpriced _ hcharge⟩

end Task

namespace Scene

/-- The plans are those of the beginning, and every use case asks with grounds and is answered at
their prices. -/
structure Priced (plans : PlanStore) (s : Scene) : Prop where
  keeps : s.world.plans = plans
  grounded : ∀ t ∈ s.tasks, t.Grounded
  priced : ∀ t ∈ s.tasks, ∀ e ∈ t.log, e.PricedBy plans

theorem priced_start (w : World) {calls : List UseCase}
    (hcalls : ∀ u ∈ calls, u.isSubscriptionWork = true) :
    (Scene.start w calls).Priced w.plans where
  keeps := rfl
  grounded := forall_mem_start w fun u hu => Task.grounded_start (hcalls u hu)
  priced := forall_mem_start w fun u _ => by simp [Task.start]

theorem Priced.step {plans : PlanStore} {s : Scene} (h : s.Priced plans) (sv : Services)
    (turn : Turn) : (s.step sv turn).Priced plans where
  keeps := (step_plans h.grounded sv turn).trans h.keeps
  grounded := step_tasks h.grounded fun t ht r next answer injected hrest _ hgrounded =>
    hgrounded.advance hrest answer injected
  priced := by
    refine step_tasks h.priced fun t ht r next answer injected hrest hreply hpriced => ?_
    intro e he
    rcases List.mem_append.mp he with hold | hnew
    · exact hpriced e hold
    · have hlast : e = { request := r, answer, injected } := by simpa using hnew
      rw [hlast, ← h.keeps]
      exact Exchange.pricedBy_of_reply hreply

theorem Priced.run {plans : PlanStore} {s : Scene} (h : s.Priced plans) (sv : Services)
    (turns : List Turn) : (s.run sv turns).Priced plans :=
  run_invariant h fun _ turn _ hs => hs.step sv turn

end Scene

end RecurringBilling
