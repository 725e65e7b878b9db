import RecurringBilling.Proofs.Interleaving.Scene
import RecurringBilling.Proofs.Payment.Numbering

/-!
# What answering a request can change

Each store and the ledger change through few requests; every other request leaves
them as they are, and a fault leaves everything as it is.  An answer that a fault
gives is a failure.
-/

namespace RecurringBilling

open RecurringBilling.Calendar

namespace Request

/-- The request is about a charge. -/
def movesMoney : Request → Bool
  | .charge _ _ | .refund _ => true
  | _ => false

/-- The request writes a plan. -/
def writesPlan : Request → Bool
  | .createPlan _ => true
  | _ => false

end Request

namespace World

variable {α σ : Type}

@[simp]
theorem facing_plans (w : World) (turn : Turn) : (w.facing turn).plans = w.plans := rfl

@[simp]
theorem facing_ledger (w : World) (turn : Turn) : (w.facing turn).ledger = w.ledger := rfl

/-- What no outcome of a call touches the call leaves alone. -/
theorem written_congr {β : Type} {w : World} {call : Except Failure α × σ} {keep : σ → World}
    (view : World → β) (h : ∀ st, view (keep st) = view w) :
    view (written call keep).2 = view w :=
  h call.2

theorem serve_ledger (sv : Services) (w : World) {r : Request} (hr : r.movesMoney = false) :
    (w.serve sv r).2.ledger = w.ledger := by
  cases r with
  | charge => simp [Request.movesMoney] at hr
  | refund => simp [Request.movesMoney] at hr
  | createSubscription | createAccount | updateSubscription | updateAccount =>
    exact written_congr World.ledger fun _ => rfl
  | _ => rfl

theorem serve_plans (sv : Services) (w : World) {r : Request} (hr : r.writesPlan = false) :
    (w.serve sv r).2.plans = w.plans := by
  cases r with
  | createPlan => simp [Request.writesPlan] at hr
  | createSubscription | createAccount | updateSubscription | updateAccount | charge | refund =>
    exact written_congr World.plans fun _ => rfl
  | _ => rfl

/-- Nothing that is asked opens or closes the eyes of a world. -/
theorem serve_blind (sv : Services) (w : World) (r : Request) :
    (w.serve sv r).2.blind = w.blind := by
  cases r with
  | createSubscription | createAccount | updateSubscription | updateAccount | charge | refund =>
    exact written_congr World.blind fun _ => rfl
  | _ => rfl

/-- An update that goes through puts the row under its own identifier. -/
theorem serve_update_of_ok (sv : Services) {w : World} {c : Subscription}
    (h : (w.serve sv (.updateSubscription c)).1 = .ok ()) :
    (w.serve sv (.updateSubscription c)).2 =
      { w with subscriptions := w.subscriptions.put c.id.value c } := by
  simp only [serve, SubscriptionStore.update, written] at h ⊢
  split at h
  · cases h
  · next hthere =>
    split at h
    · cases h
    · next hfree => rw [if_neg hthere, if_neg hfree]

/-! ## Charges -/

theorem serve_charge_of_accepting (sv : Services) {w : World} (hdecline : w.ledger.decline = none)
    (s : Subscription) (p : Plan) :
    w.serve sv (.charge s p) =
      (.ok (w.ledger.nextReceipt s p w.now),
        { w with ledger := w.ledger.withCharge (w.ledger.nextReceipt s p w.now) }) := by
  simp [serve, written, Ledger.charge_eq, hdecline]

theorem serve_charge_of_declining (sv : Services) {w : World} {reason : String}
    (hdecline : w.ledger.decline = some reason) (s : Subscription) (p : Plan) :
    w.serve sv (.charge s p) = (.error { code := .paymentFailed, message := reason }, w) := by
  simp [serve, written, Ledger.charge_eq, hdecline]

/-- Whether the ledger accepts charges does not depend on what it is asked. -/
theorem serve_decline (sv : Services) (w : World) (r : Request) :
    (w.serve sv r).2.ledger.decline = w.ledger.decline := by
  by_cases hmoney : r.movesMoney = false
  · rw [serve_ledger sv w hmoney]
  · cases r with
    | charge s p =>
      cases hdecline : w.ledger.decline with
      | some reason => rw [serve_charge_of_declining sv hdecline, hdecline]
      | none =>
        rw [serve_charge_of_accepting sv hdecline]
        exact hdecline
    | refund receipt =>
      -- a refund moves a charge from one list to the other and touches nothing else
      simp only [serve, written, Ledger.refund]
      cases w.ledger.openCharge? receipt.reference <;> rfl
    | _ => simp [Request.movesMoney] at hmoney

end World

namespace Scene

@[simp]
theorem struck_plans (s : Scene) (turn : Turn) (t : Task) (r : Request)
    (next : r.Answer → Program t.useCase.Outcome) (answer : r.Answer) :
    (s.struck turn t r next answer).world.plans = s.world.plans := rfl

/-! ## What a turn can change -/

/-- A part of the world that requests change through their calls is after a turn what it was
before, or what the call of the task makes of it whose turn it is. -/
theorem step_calls {σ κ : Type} {sv : Services} (view : World → σ) (call? : Request → Option κ)
    (after : κ → σ → σ) (hfacing : ∀ w turn, view (World.facing w turn) = view w)
    (hserve : ∀ w r, view (World.serve sv w r).2 =
      (call? r).elim (view w) fun call => after call (view w))
    (s : Scene) (turn : Turn) :
    view (s.step sv turn).world = view s.world ∨
      ∃ t r next call, s.tasks[turn.task]? = some t ∧ t.rest = .call r next ∧
        call? r = some call ∧ view (s.step sv turn).world = after call (view s.world) := by
  rcases s.step_cases sv turn with hidle | ⟨t, r, next, htask, hrest, hserved | hstruck⟩
  · exact Or.inl (by rw [hidle])
  · have hview := hserve (s.world.facing turn) r
    rw [hfacing] at hview
    rw [hserved]
    cases hcall : call? r with
    | none =>
      rw [hcall] at hview
      exact Or.inl hview
    | some call =>
      rw [hcall] at hview
      exact Or.inr ⟨t, r, next, call, htask, hrest, hcall, hview⟩
  · obtain ⟨fault, answer, -, -, hstep⟩ := hstruck
    rw [hstep]
    exact Or.inl (hfacing s.world { turn with fault := none })

/-- What neither the clock nor a request changes no turn changes. -/
theorem step_view {β : Type} (view : World → β) {sv : Services}
    (hfacing : ∀ w turn, view (World.facing w turn) = view w)
    (hserve : ∀ w r, view (World.serve sv w r).2 = view w) (s : Scene) (turn : Turn) :
    view (s.step sv turn).world = view s.world := by
  rcases step_calls view (fun _ => (none : Option Empty)) (fun _ b => b) hfacing hserve s turn
    with hsame | ⟨_, _, _, call, -, -, -, -⟩
  · exact hsame
  · exact call.elim

/-! ## What is found -/

variable {sv : Services} {w : World} {turn : Turn} {injected : Bool}

/-- A subscription is found as it is stored, as a fault answers with a failure. -/
theorem findById_of_reply {id : SubscriptionId} {found : Option Subscription}
    (h : Reply sv w turn (.findSubscription id) (.ok found) injected) :
    SubscriptionStore.findById w.subscriptions id = found := by
  rcases reply_cases h with hserved | ⟨fault, -, hanswer⟩
  · exact (Except.ok.inj hserved).symm
  · obtain ⟨f, -, herror⟩ := Option.map_eq_some_iff.mp hanswer
    cases herror

/-- A plan is found as it is stored. -/
theorem findPlan_of_reply {id : PlanId} {found : Option Plan}
    (h : Reply sv w turn (.findPlan id) (.ok found) injected) :
    PlanStore.findById w.plans id = found := by
  rcases reply_cases h with hserved | ⟨fault, -, hanswer⟩
  · exact (Except.ok.inj hserved).symm
  · obtain ⟨f, -, herror⟩ := Option.map_eq_some_iff.mp hanswer
    cases herror

end Scene

end RecurringBilling
