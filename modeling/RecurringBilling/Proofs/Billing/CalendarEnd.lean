import RecurringBilling.Proofs.Billing.Findings
import RecurringBilling.Proofs.Billing.Yields
import RecurringBilling.Proofs.Calendar.Bounds
import RecurringBilling.Proofs.Payment.Reconciliation

/-!
# Periods at the end of the calendar

A renewal does not charge for a period that ends outside the calendar, and tells so.  Whoever
subscribes does: the subscription is charged for and stored all the same, without an end.
Whether that happens depends on the clock only, as it takes a start within the last period
of the calendar.
-/

namespace RecurringBilling

open RecurringBilling.Calendar

/-! ## What is charged and stored -/

namespace UseCase

/-- The start of the period for which a use case charges. -/
def chargedFrom (s : Subscription) : UseCase → Instant
  | .renew _ => Renew.nextStart s
  | _ => s.startDate

variable {f : Findings} {u : UseCase} {s : Subscription} {p : Plan}

/-- A charge is for the period that the use case is about. -/
theorem Bills.period? (h : u.Bills f s p) :
    f.period? u = some (u.chargedFrom s, p.terms.interval) := by
  cases u with
  | subscribe user plan => exact Findings.Covers.period?_eq (Findings.Opens.toCovers h) user
  | renew id =>
    obtain ⟨e, hrenews⟩ := h
    exact hrenews.period?_eq id
  | _ => exact h.elim

section Renew

variable {id : SubscriptionId} {e : Exchange}

/-- A renewal that charges knows where its period ends. -/
theorem not_overruns_of_charge? {r : Receipt} (h : (UseCase.renew id).Warrants f e.request)
    (hr : e.charge? = some r) : f.overruns (.renew id) = false := by
  obtain ⟨request, answer, injected⟩ := e
  cases request with
  | charge s p =>
    obtain ⟨nextEnd, hrenews⟩ := h
    exact hrenews.not_overruns id
  | _ => cases hr

/-- So does a renewal that stores. -/
theorem not_overruns_of_stored? {x : Subscription} (h : (UseCase.renew id).Warrants f e.request)
    (hx : e.stored? = some x) : f.overruns (.renew id) = false := by
  obtain ⟨request, answer, injected⟩ := e
  cases request with
  | createSubscription s => exact h.elim
  | updateSubscription s =>
    obtain ⟨before, -, -, -, p, nextEnd, hrenews, -⟩ := h
    exact hrenews.not_overruns id
  | _ => cases hx

end Renew

/-- What a subscriber stores is a subscription for the first period. -/
theorem Warrants.covers_of_stored? {user : UserId} {planId : PlanId} {plans : PlanStore}
    {e : Exchange} {x : Subscription} (h : (UseCase.subscribe user planId).Warrants f e.request)
    (hhonest : Honest plans e) (hx : e.stored? = some x) : ∃ p, f.Covers planId x p := by
  obtain ⟨request, answer, injected⟩ := e
  cases request with
  | createSubscription s =>
    cases answer with
    | error _ => cases hx
    | ok stored =>
      cases hx
      -- the store has set the identifier and nothing else
      obtain ⟨id, rfl⟩ := hhonest
      obtain ⟨p, hopens⟩ := h
      exact ⟨p, { hopens.toCovers with }⟩
  | updateSubscription s =>
    obtain ⟨before, -, -, -, hamends⟩ := h
    exact hamends.elim
  | _ => cases hx

/-! ### Endings -/

section Endings

variable {id : SubscriptionId} {user : UserId} {planId : PlanId}

/-- A renewal tells of a period outside the calendar exactly if that is what it has found. -/
theorem Concludes.infrastructure_iff {e : u.Error} (h : u.Concludes f (.error e))
    (hu : u = .renew id) :
    (∃ reason, u.billingError? e = some (.infrastructure reason)) ↔ f.overruns u = true := by
  subst hu
  rw [← h.2.2]
  simp only [billingError?, Option.some.injEq]

theorem Concludes.not_overruns_of_ok {v : u.Value} (h : u.Concludes f (.ok v))
    (hu : u = .renew id) : f.overruns u = false := by
  subst hu
  exact h

/-- Nobody who subscribes is told of a period outside the calendar. -/
theorem Concludes.ne_infrastructure {e : u.Error} (h : u.Concludes f (.error e))
    (hu : u = .subscribe user planId) (reason : String) :
    u.billingError? e ≠ some (.infrastructure reason) := by
  subst hu
  intro he
  exact h.2 reason (Option.some.inj he)

end Endings

end UseCase

theorem Findings.overruns_iff {f : Findings} {u : UseCase} {start : Instant}
    {interval : PlanInterval} (h : f.period? u = some (start, interval)) :
    f.overruns u = true ↔ periodEnd? start interval = none := by
  rw [overruns, h, Option.any_some, Option.isNone_iff_eq_none]

namespace Task

/-- The start and the length of the period that the use case is about, once it has found both. -/
def period? (t : Task) : Option (Instant × PlanInterval) := t.findings.period? t.useCase

/-- The subscriptions that the use case has stored. -/
def stored (t : Task) : List Subscription := t.log.filterMap Exchange.stored?

/-- For a period that ends outside the calendar nothing is charged and nothing is stored, and the
error says so. -/
def KeepsToCalendar (t : Task) : Prop :=
  ∀ start interval, t.period? = some (start, interval) → periodEnd? start interval = none →
    t.charges = [] ∧ t.stored = [] ∧
      (t.isOver = true → ∃ reason, t.failure? = some (.infrastructure reason))

/-- All that the use case has asked its findings warrant, and the answers were honest. -/
structure Warranted (t : Task) : Prop where
  obeys : t.Obeys UseCase.warranted {}
  asked : ∀ e ∈ t.log, t.useCase.Warrants t.findings e.request
  honest : ∀ e ∈ t.log, ∃ plans, UseCase.Honest plans e

namespace Warranted

variable {t : Task}

theorem start (u : UseCase) : (Task.start u).Warranted where
  obeys := Findings.obeys_warranted u
  asked := fun _ he => by cases he
  honest := fun _ he => by cases he

theorem advance (h : t.Warranted) {r : Request} {next : r.Answer → Program t.useCase.Outcome}
    (hrest : t.rest = .call r next) {answer : r.Answer} {injected : Bool} {plans : PlanStore}
    (hhonest : UseCase.Honest plans { request := r, answer, injected }) :
    (t.advance r next answer injected).Warranted where
  obeys := h.obeys.advance hrest trivial
  asked := by
    intro e he
    rw [findings_advance]
    rcases List.mem_append.mp he with hold | hnew
    · exact (h.asked e hold).after _
    · cases List.mem_singleton.mp hnew
      exact (h.obeys.warrants hrest).after _
  honest := by
    intro e he
    rcases List.mem_append.mp he with hold | hnew
    · exact h.honest e hold
    · cases List.mem_singleton.mp hnew
      exact ⟨plans, hhonest⟩

/-- Every charge that has been asked for is for the period that the use case is about. -/
theorem period?_of_charge (h : t.Warranted) {e : Exchange} (he : e ∈ t.log) {s : Subscription}
    {p : Plan} (hrequest : e.request = .charge s p) :
    t.period? = some (t.useCase.chargedFrom s, p.terms.interval) := by
  have hwarrants := h.asked e he
  rw [hrequest] at hwarrants
  exact UseCase.Bills.period? hwarrants

/-- Every subscription that a subscriber has stored is for the first period. -/
theorem covers_of_mem_stored (h : t.Warranted) {user : UserId} {planId : PlanId}
    (hu : t.useCase = .subscribe user planId) {x : Subscription} (hx : x ∈ t.stored) :
    ∃ p, t.findings.Covers planId x p := by
  obtain ⟨e, he, hstored⟩ := List.mem_filterMap.mp hx
  have hwarrants := h.asked e he
  obtain ⟨plans, hhonest⟩ := h.honest e he
  rw [hu] at hwarrants
  exact hwarrants.covers_of_stored? hhonest hstored

section Renew

variable {id : SubscriptionId}

theorem not_overruns_of_mem_charges (h : t.Warranted) (hu : t.useCase = .renew id) {r : Receipt}
    (hr : r ∈ t.charges) : t.findings.overruns t.useCase = false := by
  obtain ⟨e, he, hcharge⟩ := List.mem_filterMap.mp hr
  have hwarrants := h.asked e he
  rw [hu] at hwarrants ⊢
  exact UseCase.not_overruns_of_charge? hwarrants hcharge

theorem not_overruns_of_mem_stored (h : t.Warranted) (hu : t.useCase = .renew id)
    {x : Subscription} (hx : x ∈ t.stored) : t.findings.overruns t.useCase = false := by
  obtain ⟨e, he, hstored⟩ := List.mem_filterMap.mp hx
  have hwarrants := h.asked e he
  rw [hu] at hwarrants ⊢
  exact UseCase.not_overruns_of_stored? hwarrants hstored

/-- A renewal that has returned tells of a period outside the calendar. -/
theorem failure?_of_overruns (h : t.Warranted) (hu : t.useCase = .renew id)
    (hover : t.findings.overruns t.useCase = true) (hisOver : t.isOver = true) :
    ∃ reason, t.failure? = some (.infrastructure reason) := by
  obtain ⟨outcome, houtcome⟩ := Option.isSome_iff_exists.mp hisOver
  have hconcludes := h.obeys.concludes houtcome
  cases outcome with
  | ok v =>
    rw [hconcludes.not_overruns_of_ok hu] at hover
    cases hover
  | error e =>
    obtain ⟨reason, hreason⟩ := (hconcludes.infrastructure_iff hu).mpr hover
    refine ⟨reason, ?_⟩
    rw [failure?, houtcome]
    exact hreason

/-- A renewal keeps to the calendar: whatever it does to its period it does after it has found where
that ends. -/
theorem keepsToCalendar_of_renew (h : t.Warranted) (hu : t.useCase = .renew id) :
    t.KeepsToCalendar := by
  intro start interval hperiod hnone
  have hover : t.findings.overruns t.useCase = true := (Findings.overruns_iff hperiod).mpr hnone
  refine ⟨List.eq_nil_iff_forall_not_mem.mpr ?_, List.eq_nil_iff_forall_not_mem.mpr ?_,
    h.failure?_of_overruns hu hover⟩
  · intro r hr
    rw [h.not_overruns_of_mem_charges hu hr] at hover
    cases hover
  · intro x hx
    rw [h.not_overruns_of_mem_stored hu hx] at hover
    cases hover

end Renew

/-- A subscriber keeps to the calendar exactly if it does nothing about a period outside it. -/
theorem keepsToCalendar_iff_of_subscribe (h : t.Warranted) {user : UserId} {planId : PlanId}
    (hu : t.useCase = .subscribe user planId) :
    t.KeepsToCalendar ↔ (t.charges ≠ [] ∨ t.stored ≠ [] ∨ t.isOver = true →
      ∀ start interval, t.period? = some (start, interval) →
        periodEnd? start interval ≠ none) := by
  constructor
  · intro hkeeps hdone start interval hperiod hnone
    obtain ⟨hcharges, hstored, hfails⟩ := hkeeps start interval hperiod hnone
    rcases hdone with hcharged | hwritten | hover
    · exact hcharged hcharges
    · exact hwritten hstored
    · obtain ⟨reason, hreason⟩ := hfails hover
      unfold failure? at hreason
      split at hreason
      · next e houtcome =>
        exact (h.obeys.concludes houtcome).ne_infrastructure hu reason hreason
      · cases hreason
  · intro hfits start interval hperiod hnone
    have hidle : ¬(t.charges ≠ [] ∨ t.stored ≠ [] ∨ t.isOver = true) :=
      fun hdone => hfits hdone start interval hperiod hnone
    simp only [not_or, ne_eq, not_not] at hidle
    exact ⟨hidle.1, hidle.2.1, fun hover => absurd hover hidle.2.2⟩

end Warranted

theorem keepsToCalendar_of_no_period {t : Task} (h : t.period? = none) : t.KeepsToCalendar := by
  intro start interval hperiod
  rw [h] at hperiod
  cases hperiod

end Task

namespace Scene

theorem warranted_run (sv : Services) (w : World) (calls : List UseCase) (turns : List Turn) :
    ∀ t ∈ ((start w calls).run sv turns).tasks, t.Warranted := by
  refine run_invariant (I := fun s => ∀ t ∈ s.tasks, t.Warranted)
    (forall_mem_start w fun u _ => Task.Warranted.start u) ?_
  intro s turn _ hs
  refine step_tasks hs fun t _ r next answer injected hrest hreply ht => ?_
  exact ht.advance hrest (honest_of_reply hreply)

/-- Whatever use cases run side by side, over whatever stores and with whatever faults and readings
of the clock: a charge is always for the period that its use case is about, a new
subscription ends with the first period of its plan, which it does if the calendar holds
that end, and a renewal charges and stores nothing for a period that ends outside the
calendar, but tells so.  All use cases do if and only if no subscriber charges, stores or
returns after it has read its start from the clock within the last day, week, month or
year of the calendar, whichever its plan is paid by. -/
theorem periods_within_calendar_iff (sv : Services) (w : World) (calls : List UseCase)
    (turns : List Turn) :
    let s := (start w calls).run sv turns
    s.tasks.map Task.useCase = calls ∧
      (∀ t ∈ s.tasks, ∀ e ∈ t.log, ∀ c p, e.request = .charge c p →
        t.period? = some (t.useCase.chargedFrom c, p.terms.interval)) ∧
      (∀ t ∈ s.tasks, ∀ user planId, t.useCase = .subscribe user planId → ∀ x ∈ t.stored,
        ∃ p, t.findings.Covers planId x p ∧ t.period? = some (x.startDate, p.terms.interval) ∧
          (x.endDate ≠ none ↔
            x.startDate.seconds + p.terms.interval.lastDays * 86400 ≤ maxSecond)) ∧
      (∀ t ∈ s.tasks, ∀ id, t.useCase = .renew id → t.KeepsToCalendar) ∧
      ((∀ t ∈ s.tasks, t.KeepsToCalendar) ↔
        ∀ t ∈ s.tasks, ∀ user planId, t.useCase = .subscribe user planId →
          t.charges ≠ [] ∨ t.stored ≠ [] ∨ t.isOver = true →
            ∀ first interval, t.period? = some (first, interval) →
              first.seconds + interval.lastDays * 86400 ≤ maxSecond) := by
  intro s
  have hwarranted : ∀ t ∈ s.tasks, t.Warranted := warranted_run sv w calls turns
  have hfits : ∀ first interval, periodEnd? first interval ≠ none ↔
      first.seconds + interval.lastDays * 86400 ≤ maxSecond := fun first interval => by
    rw [ne_eq, periodEnd?_eq_none_iff, Int.not_lt]
  refine ⟨run_useCases sv w calls turns, ?_, ?_, ?_, ?_⟩
  · intro t ht e he c p hrequest
    exact (hwarranted t ht).period?_of_charge he hrequest
  · intro t ht user planId hu x hx
    obtain ⟨p, hcovers⟩ := (hwarranted t ht).covers_of_mem_stored hu hx
    refine ⟨p, hcovers, ?_, ?_⟩
    · rw [Task.period?, hu, hcovers.period?_eq user]
    · rw [hcovers.ends, hfits]
  · intro t ht id hu
    exact (hwarranted t ht).keepsToCalendar_of_renew hu
  · simp only [← hfits]
    constructor
    · intro hkeeps t ht user planId hu
      exact ((hwarranted t ht).keepsToCalendar_iff_of_subscribe hu).mp (hkeeps t ht)
    · intro hclear t ht
      cases hu : t.useCase with
      | subscribe user planId =>
        exact ((hwarranted t ht).keepsToCalendar_iff_of_subscribe hu).mpr
          (hclear t ht user planId hu)
      | renew id => exact (hwarranted t ht).keepsToCalendar_of_renew hu
      | _ =>
        -- the other use cases are about no period
        apply Task.keepsToCalendar_of_no_period
        rw [Task.period?, hu]
        rfl

/-- In the last second of the calendar a user subscribes to a monthly plan: the month is charged
for, and what is stored and told is a subscription without an end. -/
theorem charged_beyond_calendar :
    let s := (start World.kiosk [.subscribe ⟨7⟩ ⟨1⟩]).run Services.lenient
      (Turn.inOrder .last [0, 0, 0, 0, 0, 0])
    s.tasks.map Task.period? = [some (.last, .month)] ∧ periodEnd? .last .month = none ∧
      s.tasks.map Task.succeeded = [true] ∧ s.world.ledger.receipts.length = 1 ∧
      s.world.subscriptions.entries.map (fun e => e.2.endDate) = [none] ∧
      ∀ t ∈ s.tasks, ¬t.KeepsToCalendar := by
  intro s
  have hbeyond : periodEnd? .last .month = none := by decide +kernel
  have hcharged : ∀ t ∈ s.tasks, t.period? = some (.last, .month) ∧ t.charges ≠ [] := by
    decide +kernel
  refine ⟨by decide +kernel, hbeyond, by decide +kernel, by decide +kernel, by decide +kernel, ?_⟩
  intro t ht hkeeps
  obtain ⟨hperiod, hcharges⟩ := hcharged t ht
  exact hcharges (hkeeps .last .month hperiod hbeyond).1

end Scene

end RecurringBilling
