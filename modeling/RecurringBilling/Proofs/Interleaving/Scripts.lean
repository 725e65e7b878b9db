import Mathlib.Data.List.Basic
import RecurringBilling.Proofs.Interleaving.Runs

/-!
# Scripts

The script of a use case lists the places of its program: what has been asked and answered on the
way there, and what is asked or returned then.  Each program is walked through once, to show
that it follows its script; what a conduct demands is then read off the places one by one.
-/

namespace RecurringBilling

open RecurringBilling.Calendar

/-- The request gives a charge back. -/
def Request.isRefund : Request → Bool
  | .refund _ => true
  | _ => false

/-- The program follows a script from a log on: at each place that it comes to it asks what the
script has there, the answer to a refund is all the same to it, and it ends as the script has it. -/
def Program.Follows {α : Type} (asks : List Exchange → Request → Prop)
    (ends : List Exchange → α → Prop) : Program α → List Exchange → Prop
  | .done a, log => ends log a
  | .call r next, log =>
    asks log r ∧ (r.isRefund = true → ∀ answer answer', next answer = next answer') ∧
      ∀ answer injected,
        Follows asks ends (next answer) (log ++ [{ request := r, answer, injected }])

/-- A conduct whose states are logs is in the state of what it has seen and of the log. -/
theorem Conduct.foldl_after_eq_append {α : Type} {c : Conduct (List Exchange) α}
    (hafter : ∀ log e, c.after log e = log ++ [e]) (seen log : List Exchange) :
    log.foldl c.after seen = seen ++ log := by
  -- the fold appends one exchange after the other to what has been seen
  induction log generalizing seen with
  | nil => simp
  | cons e log ih => rw [List.foldl_cons, ih, hafter, List.append_assoc, List.singleton_append]

section Obedience

variable {σ α : Type} {asks : List Exchange → Request → Prop} {ends : List Exchange → α → Prop}
  {c : Conduct σ α} {start : σ}

theorem Program.Follows.obeys_foldl
    (hasks : ∀ log r, asks log r → (∀ e ∈ log, c.rely e) → c.allows (log.foldl c.after start) r)
    (hends : ∀ log a, ends log a → (∀ e ∈ log, c.rely e) → c.ends (log.foldl c.after start) a)
    {p : Program α} {log : List Exchange} (h : p.Follows asks ends log)
    (hlog : ∀ e ∈ log, c.rely e) : p.Obeys c (log.foldl c.after start) := by
  induction p generalizing log with
  | done a => exact hends log a h hlog
  | call r next ih =>
    obtain ⟨hplace, -, hnext⟩ := h
    refine ⟨hasks log r hplace hlog, fun answer injected hanswer => ?_⟩
    have hlater := ih answer (hnext answer injected) fun e he => by
      rcases List.mem_append.mp he with hold | hlast
      · exact hlog e hold
      · rw [List.mem_singleton.mp hlast]
        exact hanswer
    rwa [List.foldl_concat] at hlater

/-- A program that follows a script keeps to every conduct that allows the places of the script, as
far as they are reached by answers on which the conduct relies. -/
theorem Program.Follows.obeys {p : Program α} (h : p.Follows asks ends [])
    (hasks : ∀ log r, asks log r → (∀ e ∈ log, c.rely e) → c.allows (log.foldl c.after start) r)
    (hends : ∀ log a, ends log a → (∀ e ∈ log, c.rely e) → c.ends (log.foldl c.after start) a) :
    p.Obeys c start :=
  obeys_foldl hasks hends h (by simp)

/-- Run: a program that follows a script ends as the script has it. -/
theorem Program.Follows.ends_of_runs {p : Program α} {earlier log : List Exchange} {a : α}
    (h : p.Follows asks ends earlier) (hruns : p.Runs log a) : ends (earlier ++ log) a := by
  induction hruns generalizing earlier with
  | done a =>
    rw [List.append_nil]
    exact h
  | call answer injected rest ih =>
    have hends := ih (h.2.2 answer injected)
    rwa [List.append_assoc, List.singleton_append] at hends

end Obedience

/-! ## What a log has told -/

/-- The log has the answer to a request. -/
def Told (log : List Exchange) (r : Request) (answer : r.Answer) : Prop :=
  ∃ injected, { request := r, answer, injected } ∈ log

namespace Told

variable {log : List Exchange} {r : Request} {answer : r.Answer}

theorem append (h : Told log r answer) (later : List Exchange) : Told (log ++ later) r answer := by
  obtain ⟨injected, hmem⟩ := h
  exact ⟨injected, List.mem_append_left later hmem⟩

theorem head (r : Request) (answer : r.Answer) (injected : Bool) (later : List Exchange) :
    Told ({ request := r, answer, injected } :: later) r answer :=
  ⟨injected, List.mem_cons_self⟩

theorem cons (h : Told log r answer) (e : Exchange) : Told (e :: log) r answer := by
  obtain ⟨injected, hmem⟩ := h
  exact ⟨injected, List.mem_cons_of_mem e hmem⟩

theorem last (log : List Exchange) (r : Request) (answer : r.Answer) (injected : Bool) :
    Told (log ++ [{ request := r, answer, injected }]) r answer :=
  ⟨injected, by simp⟩

/-- What a log with one more exchange has told, it told before or tells last. -/
theorem of_concat {e : Exchange} (h : Told (log ++ [e]) r answer) :
    Told log r answer ∨ ∃ injected, e = { request := r, answer, injected } := by
  obtain ⟨injected, hmem⟩ := h
  rcases List.mem_append.mp hmem with hold | hlast
  · exact Or.inl ⟨injected, hold⟩
  · exact Or.inr ⟨injected, (List.mem_singleton.mp hlast).symm⟩

/-- What the log has told is an answer on which the reader of the log may rely. -/
theorem rely {P : Exchange → Prop} (h : Told log r answer) (hlog : ∀ e ∈ log, P e) :
    ∃ injected, P { request := r, answer, injected } := by
  obtain ⟨injected, hmem⟩ := h
  exact ⟨injected, hlog _ hmem⟩

end Told

/-! ## Plans -/

namespace CreatePlan

variable (draft : PlanDraft)

/-- The places at which a new plan asks. -/
inductive Asks : List Exchange → Request → Prop where
  | stamp : Asks [] .clock
  | store {now : Instant} {plan : Plan} (h : Plan.create draft now = .ok plan) (i : Bool) :
      Asks [⟨.clock, now, i⟩] (.createPlan plan)

/-- The places at which a new plan ends. -/
inductive Ends : List Exchange → Except BillingError Plan → Prop where
  | unsound {now : Instant} {e : BillingError} (h : Plan.create draft now = .error e) (i : Bool) :
      Ends [⟨.clock, now, i⟩] (.error e)
  | failed {now : Instant} {plan : Plan} (h : Plan.create draft now = .ok plan) (f : Failure)
      (i j : Bool) :
      Ends [⟨.clock, now, i⟩, ⟨.createPlan plan, .error f, j⟩] (.error (.ofFailure f))
  | stored {now : Instant} {plan : Plan} (h : Plan.create draft now = .ok plan) (x : Plan)
      (i j : Bool) : Ends [⟨.clock, now, i⟩, ⟨.createPlan plan, .ok x, j⟩] (.ok x)

theorem follows : (createPlan draft).Follows (Asks draft) (Ends draft) [] := by
  refine ⟨.stamp, nofun, fun now i => ?_⟩
  cases hplan : Plan.create draft now with
  | error e =>
    simp only [hplan]
    exact .unsound hplan i
  | ok plan =>
    simp only [hplan]
    refine ⟨.store hplan i, nofun, fun answer j => ?_⟩
    cases answer with
    | error f => exact .failed hplan f i j
    | ok x => exact .stored hplan x i j

end CreatePlan

namespace ListPlans

/-- The place at which the catalogue is asked for. -/
inductive Asks : List Exchange → Request → Prop where
  | list : Asks [] .listPlans

/-- The places at which the catalogue ends. -/
inductive Ends : List Exchange → Except BillingError (List Plan) → Prop where
  | failed (f : Failure) (i : Bool) : Ends [⟨.listPlans, .error f, i⟩] (.error (.ofFailure f))
  | listed (plans : List Plan) (i : Bool) : Ends [⟨.listPlans, .ok plans, i⟩] (.ok plans)

theorem follows : listPlans.Follows Asks Ends [] := by
  refine ⟨.list, nofun, fun answer i => ?_⟩
  cases answer with
  | error f => exact .failed f i
  | ok plans => exact .listed plans i

end ListPlans

/-! ## Changes -/

namespace ChangeSubscription

variable {α : Type} (id : SubscriptionId)
  (change : Subscription → Instant → Except BillingError Unit × Subscription)
  (result : Subscription → Subscription → α)

/-- The places at which a change asks. -/
inductive Asks : List Exchange → Request → Prop where
  | load : Asks [] (.findSubscription id)
  | stamp (before : Subscription) (i : Bool) :
      Asks [⟨.findSubscription id, .ok (some before), i⟩] .clock
  | save {before after : Subscription} {now : Instant} (h : change before now = (.ok (), after))
      (i j : Bool) :
      Asks [⟨.findSubscription id, .ok (some before), i⟩, ⟨.clock, now, j⟩]
        (.updateSubscription after)

/-- The places at which a change ends. -/
inductive Ends : List Exchange → Except BillingError α → Prop where
  | failed (f : Failure) (i : Bool) :
      Ends [⟨.findSubscription id, .error f, i⟩] (.error (.ofFailure f))
  | missing (i : Bool) :
      Ends [⟨.findSubscription id, .ok none, i⟩] (.error (.subscriptionNotFound id))
  | refused {before after : Subscription} {now : Instant} {e : BillingError}
      (h : change before now = (.error e, after)) (i j : Bool) :
      Ends [⟨.findSubscription id, .ok (some before), i⟩, ⟨.clock, now, j⟩] (.error e)
  | unsaved {before after : Subscription} {now : Instant} (h : change before now = (.ok (), after))
      (f : Failure) (i j k : Bool) :
      Ends [⟨.findSubscription id, .ok (some before), i⟩, ⟨.clock, now, j⟩,
        ⟨.updateSubscription after, .error f, k⟩] (.error (.ofUpdate after.id after.user f))
  | saved {before after : Subscription} {now : Instant} (h : change before now = (.ok (), after))
      (i j k : Bool) :
      Ends [⟨.findSubscription id, .ok (some before), i⟩, ⟨.clock, now, j⟩,
        ⟨.updateSubscription after, .ok (), k⟩] (.ok (result before after))

theorem follows :
    (changeSubscription id change result).Follows (Asks id change) (Ends id change result) [] := by
  refine ⟨.load, nofun, fun answer i => ?_⟩
  rcases answer with f | _ | before
  · exact .failed f i
  · exact .missing i
  · refine ⟨.stamp before i, nofun, fun now j => ?_⟩
    cases hchange : change before now with
    | mk outcome after =>
      cases outcome with
      | error e =>
        simp only [hchange]
        exact .refused hchange i j
      | ok =>
        simp only [hchange]
        refine ⟨.save hchange i j, nofun, fun answer k => ?_⟩
        cases answer with
        | error f => exact .unsaved hchange f i j k
        | ok => exact .saved hchange i j k

end ChangeSubscription

/-! ## Renewals -/

namespace Renew

variable (id : SubscriptionId)

/-- A subscription that may be renewed has been loaded, and the next period on its plan has an
end. -/
inductive Due : List Exchange → Subscription → Plan → Instant → Prop where
  | intro {before : Subscription} {p : Plan} {nextEnd : Instant}
      (hactive : before.isActive = true) (hrenews : before.autoRenew = true)
      (hend : periodEnd? (nextStart before) p.terms.interval = some nextEnd) (i j : Bool) :
      Due [⟨.findSubscription id, .ok (some before), i⟩,
        ⟨.findPlan before.plan, .ok (some p), j⟩] before p nextEnd

/-- The charge for the next period has been declined. -/
inductive Declined : List Exchange → Subscription → String → Instant → Prop where
  | intro {log : List Exchange} {before : Subscription} {p : Plan} {nextEnd : Instant}
      (h : Due id log before p nextEnd) {f : Failure} (hf : f.code = .paymentFailed)
      (now : Instant) (i j : Bool) :
      Declined (log ++ [⟨.charge before p, .error f, i⟩] ++ [⟨.clock, now, j⟩]) before f.message now

/-- The charge for the next period has been accepted. -/
inductive Paid : List Exchange → Subscription → Plan → Instant → Receipt → Instant → Prop where
  | intro {log : List Exchange} {before : Subscription} {p : Plan} {nextEnd : Instant}
      (h : Due id log before p nextEnd) (receipt : Receipt) (now : Instant) (i j : Bool) :
      Paid (log ++ [⟨.charge before p, .ok receipt, i⟩] ++ [⟨.clock, now, j⟩]) before p nextEnd
        receipt now

section Stages

variable {id} {log : List Exchange} {before : Subscription} {p : Plan} {nextEnd now : Instant}

theorem Due.told (h : Due id log before p nextEnd) :
    Told log (.findSubscription id) (.ok (some before)) ∧
      Told log (.findPlan before.plan) (.ok (some p)) := by
  cases h with
  | intro _ _ _ i j => exact ⟨.head _ _ i _, .cons (.head _ _ j _) _⟩

theorem Due.isActive (h : Due id log before p nextEnd) : before.isActive = true := by
  cases h with
  | intro hactive _ _ _ _ => exact hactive

theorem Due.periodEnd (h : Due id log before p nextEnd) :
    periodEnd? (nextStart before) p.terms.interval = some nextEnd := by
  cases h with
  | intro _ _ hend _ _ => exact hend

theorem Declined.told {reason : String} (h : Declined id log before reason now) :
    Told log (.findSubscription id) (.ok (some before)) := by
  cases h with
  | intro h _ now i j => exact (h.told.1.append _).append _

theorem Declined.told_charge {reason : String} (h : Declined id log before reason now) :
    ∃ p f, Told log (.charge before p) (.error f) := by
  cases h with
  | @intro log _ p _ _ f _ now i j => exact ⟨p, f, (Told.last log _ _ i).append _⟩

theorem Paid.told {receipt : Receipt} (h : Paid id log before p nextEnd receipt now) :
    Told log (.findSubscription id) (.ok (some before)) ∧
      Told log (.findPlan before.plan) (.ok (some p)) := by
  cases h with
  | intro h receipt now i j =>
    exact ⟨(h.told.1.append _).append _, (h.told.2.append _).append _⟩

theorem Paid.isActive {receipt : Receipt} (h : Paid id log before p nextEnd receipt now) :
    before.isActive = true := by
  cases h with
  | intro h receipt now i j => exact h.isActive

theorem Paid.periodEnd {receipt : Receipt} (h : Paid id log before p nextEnd receipt now) :
    periodEnd? (nextStart before) p.terms.interval = some nextEnd := by
  cases h with
  | intro h receipt now i j => exact h.periodEnd

end Stages

/-- The places at which a renewal asks. -/
inductive Asks : List Exchange → Request → Prop where
  | load : Asks [] (.findSubscription id)
  | plan {before : Subscription} (hactive : before.isActive = true)
      (hrenews : before.autoRenew = true) (i : Bool) :
      Asks [⟨.findSubscription id, .ok (some before), i⟩] (.findPlan before.plan)
  | charge {log : List Exchange} {before : Subscription} {p : Plan} {nextEnd : Instant}
      (h : Due id log before p nextEnd) : Asks log (.charge before p)
  | stampMark {log : List Exchange} {before : Subscription} {p : Plan} {nextEnd : Instant}
      (h : Due id log before p nextEnd) {f : Failure} (hf : f.code = .paymentFailed) (i : Bool) :
      Asks (log ++ [⟨.charge before p, .error f, i⟩]) .clock
  | mark {log : List Exchange} {before : Subscription} {reason : String} {now : Instant}
      (h : Declined id log before reason now) :
      Asks log (.updateSubscription { before with status := .pastDue, updatedAt := now })
  | stampEnd {log : List Exchange} {before : Subscription} {p : Plan} {nextEnd : Instant}
      (h : Due id log before p nextEnd) (receipt : Receipt) (i : Bool) :
      Asks (log ++ [⟨.charge before p, .ok receipt, i⟩]) .clock
  | extend {log : List Exchange} {before : Subscription} {p : Plan} {nextEnd now : Instant}
      {receipt : Receipt} (h : Paid id log before p nextEnd receipt now)
      (hordered : nextEnd.isBefore before.startDate = false) :
      Asks log (.updateSubscription { before with endDate := some nextEnd, updatedAt := now })
  | refundEarly {log : List Exchange} {before : Subscription} {p : Plan} {nextEnd now : Instant}
      {receipt : Receipt} (h : Paid id log before p nextEnd receipt now)
      (hearly : nextEnd.isBefore before.startDate = true) : Asks log (.refund receipt)
  | refund {log : List Exchange} {before : Subscription} {p : Plan} {nextEnd now : Instant}
      {receipt : Receipt} (h : Paid id log before p nextEnd receipt now)
      (hordered : nextEnd.isBefore before.startDate = false) (f : Failure) (i : Bool) :
      Asks (log ++ [⟨.updateSubscription { before with endDate := some nextEnd, updatedAt := now },
        .error f, i⟩]) (.refund receipt)

/-- The places at which a renewal ends. -/
inductive Ends : List Exchange → Except BillingError Renewed → Prop where
  | failed (f : Failure) (i : Bool) :
      Ends [⟨.findSubscription id, .error f, i⟩] (.error (.ofFailure f))
  | missing (i : Bool) :
      Ends [⟨.findSubscription id, .ok none, i⟩] (.error (.subscriptionNotFound id))
  | inactive {before : Subscription} (h : before.isActive = false) (i : Bool) :
      Ends [⟨.findSubscription id, .ok (some before), i⟩]
        (.error (.wrongState before.status.code "renew"))
  | manual {before : Subscription} (hactive : before.isActive = true)
      (h : before.autoRenew = false) (i : Bool) :
      Ends [⟨.findSubscription id, .ok (some before), i⟩] (.error (.autoRenewOff before.id))
  | planFailed (before : Subscription) (f : Failure) (i j : Bool) :
      Ends [⟨.findSubscription id, .ok (some before), i⟩,
        ⟨.findPlan before.plan, .error f, j⟩] (.error (.ofFailure f))
  | planMissing (before : Subscription) (i j : Bool) :
      Ends [⟨.findSubscription id, .ok (some before), i⟩,
        ⟨.findPlan before.plan, .ok none, j⟩] (.error (.planNotFound before.plan))
  | overrun {before : Subscription} {p : Plan}
      (h : periodEnd? (nextStart before) p.terms.interval = none) (i j : Bool) :
      Ends [⟨.findSubscription id, .ok (some before), i⟩,
          ⟨.findPlan before.plan, .ok (some p), j⟩]
        (.error (.infrastructure "renewal period ends outside the calendar"))
  | uncharged {log : List Exchange} {before : Subscription} {p : Plan} {nextEnd : Instant}
      (h : Due id log before p nextEnd) {f : Failure} (hf : f.code ≠ .paymentFailed) (i : Bool) :
      Ends (log ++ [⟨.charge before p, .error f, i⟩]) (.error (.ofFailure f))
  | unmarked {log : List Exchange} {before : Subscription} {reason : String} {now : Instant}
      (h : Declined id log before reason now) (f : Failure) (i : Bool) :
      Ends (log ++ [⟨.updateSubscription { before with status := .pastDue, updatedAt := now },
        .error f, i⟩]) (.error (.ofUpdate before.id before.user f))
  | declined {log : List Exchange} {before : Subscription} {reason : String} {now : Instant}
      (h : Declined id log before reason now) (i : Bool) :
      Ends (log ++ [⟨.updateSubscription { before with status := .pastDue, updatedAt := now },
        .ok (), i⟩]) (.error (.paymentFailed reason))
  | early {log : List Exchange} {before : Subscription} {p : Plan} {nextEnd now : Instant}
      {receipt : Receipt} (h : Paid id log before p nextEnd receipt now)
      (hearly : nextEnd.isBefore before.startDate = true) (answer : Except Failure Unit)
      (i : Bool) : Ends (log ++ [⟨.refund receipt, answer, i⟩]) (.error .endBeforeStart)
  | unsaved {log : List Exchange} {before : Subscription} {p : Plan} {nextEnd now : Instant}
      {receipt : Receipt} (h : Paid id log before p nextEnd receipt now)
      (hordered : nextEnd.isBefore before.startDate = false) (f : Failure)
      (answer : Except Failure Unit) (i j : Bool) :
      Ends (log ++ [⟨.updateSubscription { before with endDate := some nextEnd, updatedAt := now },
          .error f, i⟩] ++ [⟨.refund receipt, answer, j⟩])
        (.error (.ofUpdate before.id before.user f))
  | renewed {log : List Exchange} {before : Subscription} {p : Plan} {nextEnd now : Instant}
      {receipt : Receipt} (h : Paid id log before p nextEnd receipt now)
      (hordered : nextEnd.isBefore before.startDate = false) (i : Bool) :
      Ends (log ++ [⟨.updateSubscription { before with endDate := some nextEnd, updatedAt := now },
          .ok (), i⟩])
        (.ok
          { subscription := { before with endDate := some nextEnd, updatedAt := now }
            receipt, previousEnd := before.endDate })

section Walk

variable {id} {log : List Exchange} {before : Subscription} {p : Plan} {nextEnd : Instant}

theorem follows_decline (h : Due id log before p nextEnd) {f : Failure}
    (hf : f.code = .paymentFailed) (i : Bool) :
    (decline before f.message).Follows (Asks id) (Ends id)
      (log ++ [⟨.charge before p, .error f, i⟩]) := by
  refine ⟨.stampMark h hf i, nofun, fun now j => ?_⟩
  have hdeclined := Declined.intro h hf now i j
  -- the word for the new status is a known one
  simp only [Subscription.updateStatus_code]
  refine ⟨.mark hdeclined, nofun, fun answer k => ?_⟩
  cases answer with
  | error f => exact .unmarked hdeclined f k
  | ok => exact .declined hdeclined k

theorem follows_extend (h : Due id log before p nextEnd) (receipt : Receipt) (i : Bool) :
    (extend before nextEnd receipt).Follows (Asks id) (Ends id)
      (log ++ [⟨.charge before p, .ok receipt, i⟩]) := by
  refine ⟨.stampEnd h receipt i, nofun, fun now j => ?_⟩
  have hpaid := Paid.intro h receipt now i j
  cases hmoved : before.updateEndDate nextEnd now with
  | mk outcome after =>
    cases outcome with
    | error e =>
      obtain ⟨hearly, rfl, -⟩ := Subscription.updateEndDate_eq_error_iff.mp hmoved
      simp only [hmoved]
      exact ⟨.refundEarly hpaid hearly, fun _ _ _ => rfl,
        fun answer k => .early hpaid hearly answer k⟩
    | ok =>
      obtain ⟨hordered, rfl⟩ := Subscription.updateEndDate_eq_ok_iff.mp hmoved
      simp only [hmoved]
      refine ⟨.extend hpaid hordered, nofun, fun answer k => ?_⟩
      cases answer with
      | error f =>
        exact ⟨.refund hpaid hordered f k, fun _ _ _ => rfl,
          fun answer l => .unsaved hpaid hordered f answer k l⟩
      | ok => exact .renewed hpaid hordered k

theorem follows_charge (h : Due id log before p nextEnd) :
    (charge before p nextEnd).Follows (Asks id) (Ends id) log := by
  refine ⟨.charge h, nofun, fun answer i => ?_⟩
  cases answer with
  | ok receipt => exact follows_extend h receipt i
  | error f =>
    by_cases hf : f.code = .paymentFailed
    · simp only [hf, if_true]
      exact follows_decline h hf i
    · simp only [hf, if_false]
      exact .uncharged h hf i

theorem follows_plan (hactive : before.isActive = true) (hrenews : before.autoRenew = true)
    (i : Bool) :
    (plan before).Follows (Asks id) (Ends id)
      [⟨.findSubscription id, .ok (some before), i⟩] := by
  refine ⟨.plan hactive hrenews i, nofun, fun answer j => ?_⟩
  rcases answer with f | _ | p
  · exact .planFailed before f i j
  · exact .planMissing before i j
  · cases hend : periodEnd? (nextStart before) p.terms.interval with
    | none =>
      simp only [hend]
      exact .overrun hend i j
    | some nextEnd =>
      simp only [hend]
      exact follows_charge (.intro hactive hrenews hend i j)

end Walk

theorem follows : (renew id).Follows (Asks id) (Ends id) [] := by
  refine ⟨.load, nofun, fun answer i => ?_⟩
  rcases answer with f | _ | before
  · exact .failed f i
  · exact .missing i
  · cases hactive : before.isActive with
    | false =>
      simp only [hactive, Bool.not_false, if_true]
      exact .inactive hactive i
    | true =>
      cases hrenews : before.autoRenew with
      | false =>
        simp only [hactive, hrenews, Bool.not_true, Bool.not_false, Bool.false_eq_true, if_false,
          if_true]
        exact .manual hactive hrenews i
      | true =>
        simp only [hactive, hrenews, Bool.not_true, Bool.false_eq_true, if_false]
        exact follows_plan hactive hrenews i

end Renew

/-! ## Subscribing -/

namespace Subscribe

variable (user : UserId) (planId : PlanId)

/-- User and plan have been stored. -/
structure Admits : Prop where
  user : user.isAssigned = true
  plan : planId.isAssigned = true

/-- The plan has been found, the user is free, and the subscription has been drawn up for the first
period. -/
inductive Drafted : List Exchange → Subscription → Plan → Prop where
  | intro (h : Admits user planId) {p : Plan} {start now : Instant} {s : Subscription}
      (hcreate : Subscription.create
        ⟨user, planId, start, periodEnd? start p.terms.interval⟩ now = .ok s) (i j k l : Bool) :
      Drafted [⟨.findPlan planId, .ok (some p), i⟩, ⟨.findActiveSubscription user, .ok none, j⟩,
        ⟨.clock, start, k⟩, ⟨.clock, now, l⟩] s p

/-- The subscription may be stored: its first period is free, or has been charged. -/
inductive Settled : List Exchange → Subscription → Option Receipt → Prop where
  | trial {log : List Exchange} {s : Subscription} {p : Plan} (h : Drafted user planId log s p)
      (htrial : p.terms.trial.isSome = true) : Settled log s none
  | charged {log : List Exchange} {s : Subscription} {p : Plan} (h : Drafted user planId log s p)
      (htrial : p.terms.trial.isSome = false) (receipt : Receipt) (i : Bool) :
      Settled (log ++ [⟨.charge s p, .ok receipt, i⟩]) s (some receipt)

section Stages

variable {user planId} {log : List Exchange} {s : Subscription}

theorem Drafted.told {p : Plan} (h : Drafted user planId log s p) :
    Told log (.findPlan planId) (.ok (some p)) ∧
      Told log (.findActiveSubscription user) (.ok none) := by
  cases h with
  | intro _ _ i j _ _ => exact ⟨.head _ _ i _, .cons (.head _ _ j _) _⟩

/-- The draft names the user and the plan, and covers the first period from its start. -/
theorem Drafted.covers {p : Plan} (h : Drafted user planId log s p) :
    s.id = .unassigned ∧ s.isActive = true ∧ s.user = user ∧ s.plan = planId ∧
      s.endDate = periodEnd? s.startDate p.terms.interval := by
  cases h with
  | intro _ hcreate _ _ _ _ =>
    unfold Subscription.create at hcreate
    split at hcreate
    · cases hcreate
    · cases hcreate
      exact ⟨rfl, rfl, rfl, rfl, rfl⟩

/-- What is settled was drafted before, and is free exactly on a plan with a trial. -/
theorem Settled.drafted {receipt : Option Receipt} (h : Settled user planId log s receipt) :
    ∃ earlier later p, log = earlier ++ later ∧ Drafted user planId earlier s p ∧
      (receipt.isSome = true ↔ p.terms.trial = none) := by
  cases h with
  | @trial _ _ p h htrial =>
    refine ⟨log, [], p, (List.append_nil log).symm, h, ?_⟩
    simpa using Option.isSome_iff_ne_none.mp htrial
  | @charged earlier _ p h htrial receipt i =>
    exact ⟨earlier, _, p, rfl, h, by simpa using htrial⟩

end Stages

/-- The places at which a subscriber asks. -/
inductive Asks : List Exchange → Request → Prop where
  | plan (h : Admits user planId) : Asks [] (.findPlan planId)
  | active (h : Admits user planId) (p : Plan) (i : Bool) :
      Asks [⟨.findPlan planId, .ok (some p), i⟩] (.findActiveSubscription user)
  | start (h : Admits user planId) (p : Plan) (i j : Bool) :
      Asks [⟨.findPlan planId, .ok (some p), i⟩,
        ⟨.findActiveSubscription user, .ok none, j⟩] .clock
  | stamp (h : Admits user planId) (p : Plan) (start : Instant) (i j k : Bool) :
      Asks [⟨.findPlan planId, .ok (some p), i⟩, ⟨.findActiveSubscription user, .ok none, j⟩,
        ⟨.clock, start, k⟩] .clock
  | charge {log : List Exchange} {s : Subscription} {p : Plan} (h : Drafted user planId log s p)
      (htrial : p.terms.trial.isSome = false) : Asks log (.charge s p)
  | store {log : List Exchange} {s : Subscription} {receipt : Option Receipt}
      (h : Settled user planId log s receipt) : Asks log (.createSubscription s)
  | refund {log : List Exchange} {s : Subscription} {receipt : Receipt}
      (h : Settled user planId log s (some receipt)) (f : Failure) (i : Bool) :
      Asks (log ++ [⟨.createSubscription s, .error f, i⟩]) (.refund receipt)

/-- The places at which a subscriber ends. -/
inductive Ends : List Exchange → Except BillingError Subscribed → Prop where
  | noUser (h : user.isAssigned = false) : Ends [] (.error .userIdMissing)
  | noPlan (h : planId.isAssigned = false) : Ends [] (.error .planIdMissing)
  | planFailed (h : Admits user planId) (f : Failure) (i : Bool) :
      Ends [⟨.findPlan planId, .error f, i⟩] (.error (.ofFailure f))
  | planMissing (h : Admits user planId) (i : Bool) :
      Ends [⟨.findPlan planId, .ok none, i⟩] (.error (.planNotFound planId))
  | failed (h : Admits user planId) (p : Plan) (f : Failure) (i j : Bool) :
      Ends [⟨.findPlan planId, .ok (some p), i⟩,
        ⟨.findActiveSubscription user, .error f, j⟩] (.error (.ofFailure f))
  | taken (h : Admits user planId) (p : Plan) (active : Subscription) (i j : Bool) :
      Ends [⟨.findPlan planId, .ok (some p), i⟩,
          ⟨.findActiveSubscription user, .ok (some active), j⟩]
        (.error (.alreadySubscribed user))
  | unsound (h : Admits user planId) {p : Plan} {start now : Instant} {e : BillingError}
      (hcreate : Subscription.create
        ⟨user, planId, start, periodEnd? start p.terms.interval⟩ now = .error e) (i j k l : Bool) :
      Ends [⟨.findPlan planId, .ok (some p), i⟩, ⟨.findActiveSubscription user, .ok none, j⟩,
        ⟨.clock, start, k⟩, ⟨.clock, now, l⟩] (.error e)
  | uncharged {log : List Exchange} {s : Subscription} {p : Plan} (h : Drafted user planId log s p)
      (htrial : p.terms.trial.isSome = false) (f : Failure) (i : Bool) :
      Ends (log ++ [⟨.charge s p, .error f, i⟩]) (.error (.ofCharge f))
  | stored {log : List Exchange} {s : Subscription} {receipt : Option Receipt}
      (h : Settled user planId log s receipt) (x : Subscription) (i : Bool) :
      Ends (log ++ [⟨.createSubscription s, .ok x, i⟩]) (.ok { subscription := x, receipt })
  | unstored {log : List Exchange} {s : Subscription} (h : Settled user planId log s none)
      (f : Failure) (i : Bool) :
      Ends (log ++ [⟨.createSubscription s, .error f, i⟩]) (.error (.ofCreation s.user f))
  | refunded {log : List Exchange} {s : Subscription} {receipt : Receipt}
      (h : Settled user planId log s (some receipt)) (f : Failure) (answer : Except Failure Unit)
      (i j : Bool) :
      Ends (log ++ [⟨.createSubscription s, .error f, i⟩] ++ [⟨.refund receipt, answer, j⟩])
        (.error (.ofCreation s.user f))

section Walk

variable {user planId} {log : List Exchange} {s : Subscription} {p : Plan}

theorem follows_store {receipt : Option Receipt} (h : Settled user planId log s receipt) :
    (store s receipt).Follows (Asks user planId) (Ends user planId) log := by
  refine ⟨.store h, nofun, fun answer i => ?_⟩
  cases answer with
  | ok x => exact .stored h x i
  | error f =>
    cases receipt with
    | none => exact .unstored h f i
    | some receipt =>
      exact ⟨.refund h f i, fun _ _ _ => rfl, fun answer j => .refunded h f answer i j⟩

theorem follows_charge (h : Drafted user planId log s p) :
    (charge s p).Follows (Asks user planId) (Ends user planId) log := by
  unfold charge
  cases htrial : p.terms.trial.isSome with
  | true =>
    rw [if_pos rfl]
    exact follows_store (.trial h htrial)
  | false =>
    rw [if_neg Bool.false_ne_true]
    refine ⟨.charge h htrial, nofun, fun answer i => ?_⟩
    cases answer with
    | error f => exact .uncharged h htrial f i
    | ok receipt => exact follows_store (.charged h htrial receipt i)

theorem follows_start (h : Admits user planId) (p : Plan) (i j : Bool) :
    (start user planId p).Follows (Asks user planId) (Ends user planId)
      [⟨.findPlan planId, .ok (some p), i⟩, ⟨.findActiveSubscription user, .ok none, j⟩] := by
  refine ⟨.start h p i j, nofun, fun start k => ⟨.stamp h p start i j k, nofun, fun now l => ?_⟩⟩
  cases hcreate : Subscription.create
      ⟨user, planId, start, periodEnd? start p.terms.interval⟩ now with
  | error e =>
    simp only [hcreate]
    exact .unsound h hcreate i j k l
  | ok s =>
    simp only [hcreate]
    exact follows_charge (.intro h hcreate i j k l)

end Walk

theorem follows : (subscribe user planId).Follows (Asks user planId) (Ends user planId) [] := by
  unfold subscribe
  cases huser : user.isAssigned with
  | false => exact .noUser huser
  | true =>
    cases hplan : planId.isAssigned with
    | false => exact .noPlan hplan
    | true =>
      have hadmits : Admits user planId := ⟨huser, hplan⟩
      refine ⟨.plan hadmits, nofun, fun answer i => ?_⟩
      rcases answer with f | _ | p
      · exact .planFailed hadmits f i
      · exact .planMissing hadmits i
      · refine ⟨.active hadmits p i, nofun, fun answer j => ?_⟩
        rcases answer with f | _ | active
        · exact .failed hadmits p f i j
        · exact follows_start hadmits p i j
        · exact .taken hadmits p active i j

end Subscribe

namespace ListSubscriptions

variable (user : UserId)

/-- The place at which an overview asks. -/
inductive Asks : List Exchange → Request → Prop where
  | list (h : user.isAssigned = true) : Asks [] (.listSubscriptions user)

/-- The places at which an overview ends. -/
inductive Ends : List Exchange → Except BillingError (List Subscription) → Prop where
  | noUser (h : user.isAssigned = false) : Ends [] (.error .userIdMissing)
  | failed (f : Failure) (i : Bool) :
      Ends [⟨.listSubscriptions user, .error f, i⟩] (.error (.ofFailure f))
  | listed (rows : List Subscription) (i : Bool) :
      Ends [⟨.listSubscriptions user, .ok rows, i⟩] (.ok rows)

theorem follows : (listSubscriptions user).Follows (Asks user) (Ends user) [] := by
  unfold listSubscriptions
  cases huser : user.isAssigned with
  | false => exact .noUser huser
  | true =>
    refine ⟨.list huser, nofun, fun answer i => ?_⟩
    cases answer with
    | error f => exact .failed f i
    | ok rows => exact .listed rows i

end ListSubscriptions

/-! ## Accounts -/

namespace Register

variable (name email password : String)

/-- Name, address and password have been read. -/
structure Reads (address : Email) (secret : Password) : Prop where
  name : ∃ fullName, PersonName.ofText name = .ok fullName
  email : Email.ofText email = .ok address
  password : Password.ofText password = .ok secret

/-- The address is free, the password has been hashed, and the clock has been read. -/
inductive Ready : List Exchange → Email → String → Instant → Prop where
  | intro {address : Email} {secret : Password} (h : Reads name email password address secret)
      (hash : String) (now : Instant) (i j k : Bool) :
      Ready [⟨.findAccountByEmail address, .ok none, i⟩,
        ⟨.hashPassword secret.plaintext, some (.ok hash), j⟩, ⟨.clock, now, k⟩] address hash now

section Stages

variable {name email password} {log : List Exchange} {address : Email} {hash : String}
  {now : Instant}

theorem Ready.reads (h : Ready name email password log address hash now) :
    ∃ secret, Reads name email password address secret := by
  cases h with
  | intro h _ _ _ _ _ => exact ⟨_, h⟩

theorem Ready.told_hash (h : Ready name email password log address hash now) :
    ∃ plaintext, Told log (.hashPassword plaintext) (some (.ok hash)) := by
  cases h with
  | intro h _ _ i j k => exact ⟨_, .cons (.head _ _ j _) _⟩

end Stages

/-- The places at which a registration asks. -/
inductive Asks : List Exchange → Request → Prop where
  | look {address : Email} {secret : Password} (h : Reads name email password address secret) :
      Asks [] (.findAccountByEmail address)
  | hash {address : Email} {secret : Password} (h : Reads name email password address secret)
      (i : Bool) :
      Asks [⟨.findAccountByEmail address, .ok none, i⟩] (.hashPassword secret.plaintext)
  | stamp {address : Email} {secret : Password} (h : Reads name email password address secret)
      (hash : String) (i j : Bool) :
      Asks [⟨.findAccountByEmail address, .ok none, i⟩,
        ⟨.hashPassword secret.plaintext, some (.ok hash), j⟩] .clock
  | store {log : List Exchange} {address : Email} {hash : String} {now : Instant}
      (h : Ready name email password log address hash now) {account : UserAccount}
      (hcreate : UserAccount.create name address.text hash now = .ok account) :
      Asks log (.createAccount account)

/-- The places at which a registration ends. -/
inductive Ends : List Exchange → Except IdentityError UserAccount → Prop where
  | badName {flaw : NameFlaw} (h : PersonName.ofText name = .error flaw) :
      Ends [] (.error (.name flaw))
  | badEmail {flaw : Email.Flaw} (h : Email.ofText email = .error flaw) :
      Ends [] (.error (.email flaw))
  | badPassword {flaw : Password.Flaw} (h : Password.ofText password = .error flaw) :
      Ends [] (.error (.password flaw))
  | lookFailed {address : Email} {secret : Password} (h : Reads name email password address secret)
      (f : Failure) (i : Bool) :
      Ends [⟨.findAccountByEmail address, .error f, i⟩] (.error (.ofFailure f))
  | taken {address : Email} {secret : Password} (h : Reads name email password address secret)
      (a : UserAccount) (i : Bool) :
      Ends [⟨.findAccountByEmail address, .ok (some a), i⟩] (.error .emailInUse)
  | hashDied {address : Email} {secret : Password} (h : Reads name email password address secret)
      (i j : Bool) :
      Ends [⟨.findAccountByEmail address, .ok none, i⟩, ⟨.hashPassword secret.plaintext, none, j⟩]
        (.error (.infrastructure "password hashing task failed"))
  | hashFailed {address : Email} {secret : Password} (h : Reads name email password address secret)
      (f : Failure) (i j : Bool) :
      Ends [⟨.findAccountByEmail address, .ok none, i⟩,
        ⟨.hashPassword secret.plaintext, some (.error f), j⟩] (.error (.infrastructure f.message))
  | unsound {log : List Exchange} {address : Email} {hash : String} {now : Instant}
      (h : Ready name email password log address hash now) {e : IdentityError}
      (hcreate : UserAccount.create name address.text hash now = .error e) : Ends log (.error e)
  | unstored {log : List Exchange} {address : Email} {hash : String} {now : Instant}
      (h : Ready name email password log address hash now) {account : UserAccount}
      (hcreate : UserAccount.create name address.text hash now = .ok account) (f : Failure)
      (i : Bool) :
      Ends (log ++ [⟨.createAccount account, .error f, i⟩]) (.error (.ofFailure f))
  | stored {log : List Exchange} {address : Email} {hash : String} {now : Instant}
      (h : Ready name email password log address hash now) {account : UserAccount}
      (hcreate : UserAccount.create name address.text hash now = .ok account) (x : UserAccount)
      (i : Bool) : Ends (log ++ [⟨.createAccount account, .ok x, i⟩]) (.ok x)

section Walk

variable {name email password}

theorem follows_store {address : Email} {secret : Password}
    (h : Reads name email password address secret) (hash : String) (i j : Bool) :
    (store name address.text hash).Follows (Asks name email password) (Ends name email password)
      [⟨.findAccountByEmail address, .ok none, i⟩,
        ⟨.hashPassword secret.plaintext, some (.ok hash), j⟩] := by
  refine ⟨.stamp h hash i j, nofun, fun now k => ?_⟩
  have hready := Ready.intro h hash now i j k
  cases hcreate : UserAccount.create name address.text hash now with
  | error e =>
    simp only [hcreate]
    exact .unsound hready hcreate
  | ok account =>
    simp only [hcreate]
    refine ⟨.store hready hcreate, nofun, fun answer l => ?_⟩
    cases answer with
    | error f => exact .unstored hready hcreate f l
    | ok x => exact .stored hready hcreate x l

theorem follows_checkFree {address : Email} {secret : Password}
    (h : Reads name email password address secret) :
    (checkFree name address secret).Follows (Asks name email password)
      (Ends name email password) [] := by
  refine ⟨.look h, nofun, fun answer i => ?_⟩
  rcases answer with f | _ | a
  · exact .lookFailed h f i
  · refine ⟨.hash h i, nofun, fun answer j => ?_⟩
    rcases answer with _ | f | hash
    · exact .hashDied h i j
    · exact .hashFailed h f i j
    · exact follows_store h hash i j
  · exact .taken h a i

end Walk

theorem follows :
    (register name email password).Follows (Asks name email password)
      (Ends name email password) [] := by
  unfold register
  cases hname : PersonName.ofText name with
  | error flaw => exact .badName hname
  | ok fullName =>
    cases hemail : Email.ofText email with
    | error flaw => exact .badEmail hemail
    | ok address =>
      cases hpassword : Password.ofText password with
      | error flaw => exact .badPassword hpassword
      | ok secret => exact follows_checkFree ⟨⟨fullName, hname⟩, hemail, hpassword⟩

end Register

namespace Activate

variable (user : UserId)

/-- The places at which an activation asks. -/
inductive Asks : List Exchange → Request → Prop where
  | load (h : user.isAssigned = true) : Asks [] (.findAccount user)
  | stamp {before : UserAccount} (h : before.activated = false) (i : Bool) :
      Asks [⟨.findAccount user, .ok (some before), i⟩] .clock
  | save {before : UserAccount} (h : before.activated = false) (now : Instant) (i j : Bool) :
      Asks [⟨.findAccount user, .ok (some before), i⟩, ⟨.clock, now, j⟩]
        (.updateAccount (before.activate now))

/-- The places at which an activation ends. -/
inductive Ends : List Exchange → Except IdentityError Activated → Prop where
  | noUser (h : user.isAssigned = false) : Ends [] (.error .userIdMissing)
  | failed (f : Failure) (i : Bool) :
      Ends [⟨.findAccount user, .error f, i⟩] (.error (.ofFailure f))
  | missing (i : Bool) : Ends [⟨.findAccount user, .ok none, i⟩] (.error (.userNotFound user))
  | active {account : UserAccount} (h : account.activated = true) (i : Bool) :
      Ends [⟨.findAccount user, .ok (some account), i⟩] (.ok { account, changed := false })
  | unsaved {before : UserAccount} (h : before.activated = false) (now : Instant) (f : Failure)
      (i j k : Bool) :
      Ends [⟨.findAccount user, .ok (some before), i⟩, ⟨.clock, now, j⟩,
        ⟨.updateAccount (before.activate now), .error f, k⟩] (.error (.ofFailure f))
  | saved {before : UserAccount} (h : before.activated = false) (now : Instant) (i j k : Bool) :
      Ends [⟨.findAccount user, .ok (some before), i⟩, ⟨.clock, now, j⟩,
          ⟨.updateAccount (before.activate now), .ok (), k⟩]
        (.ok { account := before.activate now, changed := true })

theorem follows : (activate user).Follows (Asks user) (Ends user) [] := by
  unfold activate
  cases huser : user.isAssigned with
  | false => exact .noUser huser
  | true =>
    refine ⟨.load huser, nofun, fun answer i => ?_⟩
    rcases answer with f | _ | account
    · exact .failed f i
    · exact .missing i
    · cases hactive : account.activated with
      | true =>
        simp only [hactive, if_true]
        exact .active hactive i
      | false =>
        simp only [hactive, Bool.false_eq_true, if_false]
        refine ⟨.stamp hactive i, nofun, fun now j => ?_⟩
        refine ⟨.save hactive now i j, nofun, fun answer k => ?_⟩
        cases answer with
        | error f => exact .unsaved hactive now f i j k
        | ok => exact .saved hactive now i j k

end Activate

namespace SignIn

variable (email password : String)

/-- The places at which a user who signs in asks. -/
inductive Asks : List Exchange → Request → Prop where
  | look {address : Email} (h : Email.ofText email = .ok address) :
      Asks [] (.findAccountByEmail address)
  | verify {address : Email} (h : Email.ofText email = .ok address) (a : UserAccount) (i : Bool) :
      Asks [⟨.findAccountByEmail address, .ok (some a), i⟩]
        (.verifyPassword password a.passwordHash)
  | issue {address : Email} (h : Email.ofText email = .ok address) {a : UserAccount}
      (hactive : a.activated = true) (i j : Bool) :
      Asks [⟨.findAccountByEmail address, .ok (some a), i⟩,
        ⟨.verifyPassword password a.passwordHash, some true, j⟩] (.issueToken a)

/-- The places at which a user who signs in ends. -/
inductive Ends : List Exchange → Except IdentityError SignedIn → Prop where
  | badEmail {flaw : Email.Flaw} (h : Email.ofText email = .error flaw) :
      Ends [] (.error (.email flaw))
  | lookFailed {address : Email} (h : Email.ofText email = .ok address) (f : Failure) (i : Bool) :
      Ends [⟨.findAccountByEmail address, .error f, i⟩] (.error (.ofFailure f))
  | unknown {address : Email} (h : Email.ofText email = .ok address) (i : Bool) :
      Ends [⟨.findAccountByEmail address, .ok none, i⟩] (.error .wrongCredentials)
  | died {address : Email} (h : Email.ofText email = .ok address) (a : UserAccount) (i j : Bool) :
      Ends [⟨.findAccountByEmail address, .ok (some a), i⟩,
          ⟨.verifyPassword password a.passwordHash, none, j⟩]
        (.error (.infrastructure "password verification task failed"))
  | mismatch {address : Email} (h : Email.ofText email = .ok address) (a : UserAccount)
      (i j : Bool) :
      Ends [⟨.findAccountByEmail address, .ok (some a), i⟩,
        ⟨.verifyPassword password a.passwordHash, some false, j⟩] (.error .wrongCredentials)
  | inactive {address : Email} (h : Email.ofText email = .ok address) {a : UserAccount}
      (hactive : a.activated = false) (i j : Bool) :
      Ends [⟨.findAccountByEmail address, .ok (some a), i⟩,
        ⟨.verifyPassword password a.passwordHash, some true, j⟩] (.error .notActivated)
  | unissued {address : Email} (h : Email.ofText email = .ok address) {a : UserAccount}
      (hactive : a.activated = true) (f : Failure) (i j k : Bool) :
      Ends [⟨.findAccountByEmail address, .ok (some a), i⟩,
          ⟨.verifyPassword password a.passwordHash, some true, j⟩, ⟨.issueToken a, .error f, k⟩]
        (.error (.infrastructure f.message))
  | issued {address : Email} (h : Email.ofText email = .ok address) {a : UserAccount}
      (hactive : a.activated = true) (token : String) (i j k : Bool) :
      Ends [⟨.findAccountByEmail address, .ok (some a), i⟩,
          ⟨.verifyPassword password a.passwordHash, some true, j⟩, ⟨.issueToken a, .ok token, k⟩]
        (.ok { user := a.id, token })

theorem follows :
    (signIn email password).Follows (Asks email password) (Ends email password) [] := by
  unfold signIn
  cases hemail : Email.ofText email with
  | error flaw => exact .badEmail hemail
  | ok address =>
    refine ⟨.look hemail, nofun, fun answer i => ?_⟩
    rcases answer with f | _ | a
    · exact .lookFailed hemail f i
    · exact .unknown hemail i
    · refine ⟨.verify hemail a i, nofun, fun answer j => ?_⟩
      rcases answer with _ | _ | _
      · exact .died hemail a i j
      · exact .mismatch hemail a i j
      · cases hactive : a.activated with
        | false =>
          simp only [Bool.false_eq_true, if_false]
          exact .inactive hemail hactive i j
        | true =>
          simp only [if_true]
          refine ⟨.issue hemail hactive i j, nofun, fun answer k => ?_⟩
          cases answer with
          | error f => exact .unissued hemail hactive f i j k
          | ok token => exact .issued hemail hactive token i j k

end SignIn

/-! ## All use cases -/

namespace UseCase

/-- The places at which a use case asks. -/
def Asks : UseCase → List Exchange → Request → Prop
  | .createPlan draft => CreatePlan.Asks draft
  | .listPlans => ListPlans.Asks
  | .subscribe user planId => Subscribe.Asks user planId
  | .changeStatus id code => ChangeSubscription.Asks id fun s now => s.updateStatus code now
  | .changeAutoRenew id autoRenew =>
    ChangeSubscription.Asks id fun s now => (.ok (), s.setAutoRenew autoRenew now)
  | .renew id => Renew.Asks id
  | .listSubscriptions user => ListSubscriptions.Asks user
  | .register name email password => Register.Asks name email password
  | .activate user => Activate.Asks user
  | .signIn email password => SignIn.Asks email password

/-- The places at which a use case ends. -/
def Ends : (u : UseCase) → List Exchange → u.Outcome → Prop
  | .createPlan draft => CreatePlan.Ends draft
  | .listPlans => ListPlans.Ends
  | .subscribe user planId => Subscribe.Ends user planId
  | .changeStatus id code =>
    ChangeSubscription.Ends id (fun s now => s.updateStatus code now) fun before after =>
      { subscription := after, previous := before.status }
  | .changeAutoRenew id autoRenew =>
    ChangeSubscription.Ends id (fun s now => (.ok (), s.setAutoRenew autoRenew now))
      fun _ after => after
  | .renew id => Renew.Ends id
  | .listSubscriptions user => ListSubscriptions.Ends user
  | .register name email password => Register.Ends name email password
  | .activate user => Activate.Ends user
  | .signIn email password => SignIn.Ends email password

/-- Every use case follows its script. -/
theorem follows (u : UseCase) : u.program.Follows u.Asks u.Ends [] := by
  cases u with
  | createPlan draft => exact CreatePlan.follows draft
  | listPlans => exact ListPlans.follows
  | subscribe user planId => exact Subscribe.follows user planId
  | changeStatus id code => exact ChangeSubscription.follows id _ _
  | changeAutoRenew id autoRenew => exact ChangeSubscription.follows id _ _
  | renew id => exact Renew.follows id
  | listSubscriptions user => exact ListSubscriptions.follows user
  | register name email password => exact Register.follows name email password
  | activate user => exact Activate.follows user
  | signIn email password => exact SignIn.follows email password

end UseCase

end RecurringBilling
