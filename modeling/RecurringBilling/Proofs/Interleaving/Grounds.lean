import RecurringBilling.Proofs.Interleaving.Scripts
import RecurringBilling.Proofs.Interleaving.Serve
import RecurringBilling.Proofs.Subscription.Stamps

/-!
# Grounds

What a use case asks has grounds in its arguments and in what it was told before.  It
charges only for the subscription it is about, at the plan it looked up; it creates
only active subscriptions that have no identifier yet, for the user it was given; and
it replaces only a subscription that it loaded, whose identifier, user and plan it
keeps.
-/

namespace RecurringBilling

open RecurringBilling.Calendar

namespace UseCase

/-- The subscription for which a use case may charge. -/
def ChargesFor (log : List Exchange) (s : Subscription) : UseCase → Prop
  | .subscribe user plan => s.user = user ∧ s.plan = plan
  | .renew id => Told log (.findSubscription id) (.ok (some s))
  | _ => False

/-- A request has grounds in the arguments of a use case and its log. -/
def Grounds (u : UseCase) (log : List Exchange) : Request → Prop
  | .createPlan _ => False
  | .charge s p => u.ChargesFor log s ∧ Told log (.findPlan s.plan) (.ok (some p))
  | .createSubscription s =>
    s.id = .unassigned ∧ s.isActive = true ∧ u = .subscribe s.user s.plan
  | .findSubscription id => u.target? = some id
  | .findActiveSubscription user => u.subscribes user = true
  | .updateSubscription s =>
    ∃ id before, u.target? = some id ∧ Told log (.findSubscription id) (.ok (some before)) ∧
      s.id = before.id ∧ s.user = before.user ∧ s.plan = before.plan
  | _ => True

theorem ChargesFor.append {u : UseCase} {log : List Exchange} {s : Subscription}
    (h : u.ChargesFor log s) (later : List Exchange) : u.ChargesFor (log ++ later) s := by
  cases u with
  | subscribe user plan => exact h
  | renew id => exact Told.append h later
  | _ => exact h

/-- Grounds stay grounds when the log grows. -/
theorem Grounds.append {u : UseCase} {log : List Exchange} {r : Request}
    (h : u.Grounds log r) (later : List Exchange) : u.Grounds (log ++ later) r := by
  cases r with
  | charge s p => exact ⟨h.1.append later, h.2.append later⟩
  | updateSubscription s =>
    obtain ⟨id, before, htarget, htold, hkeeps⟩ := h
    exact ⟨id, before, htarget, htold.append later, hkeeps⟩
  | _ => exact h

/-- The conduct of asking with grounds. -/
def grounded (u : UseCase) : Conduct (List Exchange) u.Outcome where
  after := fun log e => log ++ [e]
  allows := u.Grounds
  ends := fun _ _ => True

end UseCase

namespace Task

/-- A conduct whose states are logs is in the state of the log. -/
theorem stateBy_eq_log {c : (u : UseCase) → Conduct (List Exchange) u.Outcome}
    (hafter : ∀ u log e, (c u).after log e = log ++ [e]) (t : Task) : t.stateBy c [] = t.log :=
  Conduct.foldl_after_eq_append (hafter t.useCase) [] t.log

theorem stateBy_grounded (t : Task) : t.stateBy UseCase.grounded [] = t.log :=
  stateBy_eq_log (fun _ _ _ => rfl) t

theorem Obeys.grounds {t : Task} {r : Request} {next : r.Answer → Program t.useCase.Outcome}
    (h : t.Obeys UseCase.grounded []) (hrest : t.rest = .call r next) :
    t.useCase.Grounds t.log r := by
  have hallows := h.allows hrest
  rwa [stateBy_grounded] at hallows

end Task

/-! ## The use cases ask with grounds -/

namespace Grounds

open UseCase (grounded)

section Changes

variable {id : SubscriptionId} {before : Subscription} {log : List Exchange}

/-- What only sets fields that are not its identifier, its user or its plan may replace the
subscription that was loaded. -/
theorem of_told {u : UseCase} {s : Subscription} (hu : u.target? = some id)
    (hbefore : Told log (.findSubscription id) (.ok (some before))) (hid : s.id = before.id)
    (huser : s.user = before.user) (hplan : s.plan = before.plan) :
    u.Grounds log (.updateSubscription s) :=
  ⟨id, before, hu, hbefore, hid, huser, hplan⟩

theorem of_change {u : UseCase} (hu : u.target? = some id)
    {change : Subscription → Instant → Except BillingError Unit × Subscription}
    (hkeeps : ∀ {before after : Subscription} {now : Instant}, change before now = (.ok (), after) →
      after.id = before.id ∧ before.SameOrigin after ∧ after.endDate = before.endDate)
    {r : Request} (h : ChangeSubscription.Asks id change log r) : u.Grounds log r := by
  cases h with
  | load => exact hu
  | stamp before i => exact trivial
  | save hchange i j =>
    obtain ⟨hid, horigin, -⟩ := hkeeps hchange
    exact of_told hu (.head _ _ i _) hid horigin.user horigin.plan

end Changes

section Renew

variable {id : SubscriptionId} {log : List Exchange} {before : Subscription} {p : Plan}
  {nextEnd now : Instant}

theorem of_renew {r : Request} (h : Renew.Asks id log r) :
    (UseCase.renew id).Grounds log r := by
  cases h with
  | load => exact rfl
  | charge h => exact h.told
  | mark h => exact of_told rfl h.told rfl rfl rfl
  | extend h _ => exact of_told rfl h.told.1 rfl rfl rfl
  | _ => exact trivial

end Renew

section Subscribe

variable {user : UserId} {planId : PlanId} {log : List Exchange} {s : Subscription}

theorem of_drafted {p : Plan} (h : Subscribe.Drafted user planId log s p) :
    (UseCase.subscribe user planId).Grounds log (.createSubscription s) := by
  obtain ⟨hid, hactive, rfl, rfl, -⟩ := h.covers
  exact ⟨hid, hactive, rfl⟩

theorem of_settled {receipt : Option Receipt} (h : Subscribe.Settled user planId log s receipt) :
    (UseCase.subscribe user planId).Grounds log (.createSubscription s) := by
  obtain ⟨earlier, later, p, rfl, hdrafted, -⟩ := h.drafted
  exact (of_drafted hdrafted).append later

theorem of_subscribe {r : Request} (h : Subscribe.Asks user planId log r) :
    (UseCase.subscribe user planId).Grounds log r := by
  cases h with
  | active _ _ _ => exact beq_self_eq_true user
  | charge h _ =>
    obtain ⟨-, -, huser, hplan, -⟩ := h.covers
    -- the draft names the plan that was looked up
    subst hplan
    exact ⟨⟨huser, rfl⟩, h.told.1⟩
  | store h => exact of_settled h
  | _ => exact trivial

end Subscribe

/-- Every use case that writes subscriptions asks with grounds. -/
theorem obeys_of_isSubscriptionWork {u : UseCase} (hu : u.isSubscriptionWork = true) :
    u.program.Obeys u.grounded [] := by
  refine u.follows.obeys (fun log r h _ => ?_) fun _ _ _ _ => trivial
  rw [Conduct.foldl_after_eq_append (fun _ _ => rfl), List.nil_append]
  cases u with
  | subscribe user planId => exact of_subscribe h
  | changeStatus id code => exact of_change rfl Subscription.keeps_of_updateStatus h
  | changeAutoRenew id autoRenew => exact of_change rfl Subscription.keeps_of_setAutoRenew h
  | renew id => exact of_renew h
  | _ => simp [UseCase.isSubscriptionWork] at hu

end Grounds

namespace Task

/-- The use case asks with grounds, and has done so all along. -/
structure Grounded (t : Task) : Prop where
  obeys : t.Obeys UseCase.grounded []
  log : ∀ e ∈ t.log, t.useCase.Grounds t.log e.request

theorem grounded_start {u : UseCase} (hu : u.isSubscriptionWork = true) : (start u).Grounded where
  obeys := Grounds.obeys_of_isSubscriptionWork hu
  log := by
    intro e he
    simp [start] at he

theorem Grounded.advance {t : Task} (h : t.Grounded) {r : Request}
    {next : r.Answer → Program t.useCase.Outcome} (hrest : t.rest = .call r next)
    (answer : r.Answer) (injected : Bool) : (t.advance r next answer injected).Grounded where
  obeys := h.obeys.advance hrest trivial
  log := by
    intro e he
    rcases List.mem_append.mp he with hold | hnew
    · exact (h.log e hold).append _
    · have hlast : e = { request := r, answer, injected } := by simpa using hnew
      rw [hlast]
      exact (h.obeys.grounds hrest).append _

/-- Whoever asks with grounds writes no plan. -/
theorem Grounded.serve_plans {t : Task} (h : t.Grounded) {r : Request}
    {next : r.Answer → Program t.useCase.Outcome} (hrest : t.rest = .call r next) (sv : Services)
    (w : World) : (w.serve sv r).2.plans = w.plans := by
  have hgrounds := h.obeys.grounds hrest
  apply World.serve_plans
  cases r with
  -- nobody has grounds to create a plan
  | createPlan plan => exact absurd hgrounds id
  | _ => rfl

end Task

namespace Scene

/-- The plans stay as they are. -/
theorem step_plans {s : Scene} (hgrounded : ∀ t ∈ s.tasks, t.Grounded) (sv : Services)
    (turn : Turn) : (s.step sv turn).world.plans = s.world.plans := by
  rcases s.step_cases sv turn with hidle | ⟨t, r, next, htask, hrest, hserved | hstruck⟩
  · rw [hidle]
  · rw [hserved]
    exact (hgrounded t (List.mem_of_getElem? htask)).serve_plans hrest sv _
  · obtain ⟨fault, answer, -, -, hstep⟩ := hstruck
    rw [hstep, struck_plans]

end Scene

end RecurringBilling
