import RecurringBilling.Proofs.Billing.Extension
import RecurringBilling.Proofs.Billing.Yields
import RecurringBilling.Proofs.Calendar.Composition

/-!
# Keeping to the schedule

A subscription that has an end keeps to the schedule that its start and its plan set.  A visit
either renews it, and then its end moves on by one period and the end before is told, or it
leaves user, plan, start and end as they are, whatever else it does and however it fails.
So after any visits the end lies as many periods after the start as there were renewals,
and one more.  Days and weeks add up; so do months from a start no later than the 28th,
and years from a start on any day but February 29.
-/

namespace RecurringBilling

open RecurringBilling.Calendar

/-! ## The schedule -/

/-- The end after a number of periods in a row: that of one period after the other, which is the
end of as many days, weeks, months or years at once where these do not drift. -/
structure PeriodsEnd (interval : PlanInterval) (start : Instant) (n : Nat) (e : Option Instant) :
    Prop where
  inTurn : advance interval n start = e
  days : interval = .day → start.addDays n = .ok e
  weeks : interval = .week → start.addDays (7 * (n : Int)) = .ok e
  months : interval = .month → start.date.day ≤ 28 → start.plusMonths? n = e
  years : interval = .year → ¬(start.date.month = 2 ∧ start.date.day = 29) →
    start.plusYears? n = e

theorem periodsEnd_of_advance {interval : PlanInterval} {start x : Instant} {n : Nat}
    (h : advance interval (n + 1) start = some x) :
    PeriodsEnd interval start (n + 1) (some x) where
  inTurn := h
  days := by
    rintro rfl
    exact addDays_of_advance h
  weeks := by
    rintro rfl
    exact addWeeks_of_advance h
  months := by
    rintro rfl hday
    exact plusMonths?_of_advance hday h
  years := by
    rintro rfl hday
    exact plusYears?_of_advance hday h

/-! ## What a task tells -/

namespace Task

variable {plans : PlanStore} {id : SubscriptionId} {t : Task}

/-- The subscription that the task has opened. -/
def opened? : Task → Option Subscription
  | { useCase := .subscribe _ _, log := _, rest := .done (.ok v) } => some v.subscription
  | _ => none

/-- A subscription that has been opened is stored, and ends with its first period. -/
theorem stored_of_opened? (h : t.Obeys (UseCase.tellsStored plans) {}) {user : UserId}
    {planId : PlanId} (hu : t.useCase = .subscribe user planId) {s : Subscription}
    (hs : t.opened? = some s) :
    t.holding.stored = some s ∧ s.user = user ∧ s.plan = planId ∧
      ∃ p, PlanStore.findById plans planId = some p ∧
        s.endDate = periodEnd? s.startDate p.terms.interval := by
  obtain ⟨u, log, rest⟩ := t
  cases hu
  cases rest with
  | call r next => cases hs
  | done outcome =>
    cases outcome with
    | error e => cases hs
    | ok v =>
      cases hs
      exact h

/-- Who tells an end has renewed the subscription: what it has stored is what it has loaded, one
period on, and it tells the end that it has loaded. -/
theorem extends_of_previousEnds (h : t.Obeys (UseCase.tellsStored plans) {})
    (hends : t.previousEnds id ≠ []) :
    t.useCase = .renew id ∧ ∃ before after, t.deeds.loaded = some before ∧
      t.holding.stored = some after ∧ Renewal.Extends plans before after ∧
      t.previousEnds id = [before.endDate] := by
  by_cases hu : t.useCase = .renew id
  · refine ⟨hu, ?_⟩
    rw [← t.holding_deeds]
    obtain ⟨u, log, rest⟩ := t
    cases hu
    cases rest with
    | call r next => exact absurd rfl hends
    | done outcome =>
      cases outcome with
      | error e => exact absurd rfl hends
      | ok v =>
        obtain ⟨hstored, before, hloaded, hextends, hprevious⟩ := h
        refine ⟨before, v.subscription, hloaded, hstored, hextends, ?_⟩
        rw [← hprevious]
        exact if_pos rfl
  · exact absurd (previousEnds_of_other hu) hends

/-- A renewal that has written although no charge was declined has succeeded. -/
theorem previousEnds_ne_nil (h : t.Obeys UseCase.writesOnce {}) (hu : t.useCase = .renew id)
    (hwritten : t.deeds.written = true) (hdeclined : t.deeds.declined = none) :
    t.previousEnds id ≠ [] := by
  obtain ⟨u, log, rest⟩ := t
  cases hu
  cases rest with
  | call r next =>
    rw [(h.permits rfl).unwritten] at hwritten
    cases hwritten
  | done outcome =>
    cases outcome with
    | error e =>
      obtain ⟨reason, hreason, -⟩ := h.ends rfl hwritten
      have hdeclined' := hreason.symm.trans hdeclined
      cases hdeclined'
    | ok v => simp [previousEnds]

end Task

/-! ## One visit after the other -/

namespace Scene

/-- The subscriptions that have been opened. -/
def opened (s : Scene) : List Subscription := s.tasks.filterMap Task.opened?

/-- The ends that renewals of a subscription tell to have been stored before. -/
def previousEnds (id : SubscriptionId) (s : Scene) : List (Option Instant) :=
  s.tasks.flatMap (Task.previousEnds id)

end Scene

/-- How often visits that follow one another renew a subscription. -/
def World.renewals (sv : Services) (w : World) (id : SubscriptionId) : List Visit → Nat
  | [] => 0
  | v :: rest =>
    ((w.visit sv v).previousEnds id).length + (w.visit sv v).world.renewals sv id rest

namespace Scene

variable {w : World} {s : Scene} {t : Task} {id : SubscriptionId} {row : Subscription}

/-- Who is about a subscription has loaded the row that is there. -/
theorem Alone.loaded_eq (h : s.Alone w) (ht : t ∈ s.tasks) (htarget : t.useCase.target? = some id)
    (hrow : SubscriptionStore.findById w.subscriptions id = some row) {before : Subscription}
    (hloaded : t.deeds.loaded = some before) : before = row := by
  obtain ⟨id', htarget', hbefore⟩ := h.loaded t ht before hloaded
  rw [← Option.some.inj (htarget.symm.trans htarget'), hrow] at hbefore
  exact (Option.some.inj hbefore).symm

/-- Who is about a subscription and has written leaves a replacement of the row that was there. -/
theorem Alone.findById_of_written (h : s.Alone w) (hw : w.InOrder) (ht : t ∈ s.tasks)
    (htarget : t.useCase.target? = some id) (hwritten : t.deeds.written = true)
    (hrow : SubscriptionStore.findById w.subscriptions id = some row) :
    ∃ after, SubscriptionStore.findById s.world.subscriptions id = some after ∧
      t.useCase.Replaces t.deeds.declined row after := by
  obtain ⟨before, after, hloaded, hreplaces, hstores⟩ := h.replaced t ht hwritten id htarget
  obtain rfl := h.loaded_eq ht htarget hrow hloaded
  have hsubscriptions : s.world.subscriptions = w.subscriptions.put after.id.value after :=
    congrArg (fun stores => stores.2.1) hstores
  have hid : after.id = id := by
    rw [hreplaces.sameOrigin.1, hw.subscriptions.named id.value before hrow]
  refine ⟨after, ?_, hreplaces⟩
  rw [hsubscriptions, SubscriptionStore.findById, Store.find?_put, hid, if_pos rfl]

end Scene

namespace World

section Visit

variable {w : World} {id : SubscriptionId} {row : Subscription}

/-- A visit in which nobody renews a subscription leaves its schedule as it is. -/
theorem row_of_no_renewal (hw : w.InOrder)
    (hrow : SubscriptionStore.findById w.subscriptions id = some row) (sv : Services) (v : Visit)
    (hends : ∀ t ∈ (w.visit sv v).tasks, t.previousEnds id = []) :
    ∃ row', SubscriptionStore.findById (w.visit sv v).world.subscriptions id = some row' ∧
      row.SameOrigin row' ∧ row'.endDate = row.endDate := by
  have halone : (w.visit sv v).Alone w := Scene.alone_run sv w v.useCase v.turns
  by_cases htarget : v.useCase.target? = some id
  · obtain ⟨t, hone⟩ := List.length_eq_one_iff.mp halone.alone
    have ht : t ∈ (w.visit sv v).tasks := by rw [hone, List.mem_singleton]
    rw [← Scene.useCase_of_mem ht] at htarget
    cases hwritten : t.deeds.written with
    | false =>
      have hsame : (w.visit sv v).world.subscriptions = w.subscriptions :=
        congrArg (fun stores => stores.2.1) (halone.stores_eq ht hwritten)
      exact ⟨row, by rw [hsame, hrow], .refl row, rfl⟩
    | true =>
      obtain ⟨after, hafter, hreplaces⟩ :=
        halone.findById_of_written hw ht htarget hwritten hrow
      obtain ⟨-, horigin, hend | ⟨renewed, hrenew, hdeclined⟩⟩ := hreplaces.sameOrigin
      · exact ⟨after, hafter, horigin, hend⟩
      -- a renewal that has moved the end on would tell the end before
      · rw [hrenew] at htarget
        cases htarget
        exact absurd (hends t ht)
          (Task.previousEnds_ne_nil (halone.obeys t ht) hrenew hwritten hdeclined)
  · exact ⟨row, Scene.findById_of_other hw htarget hrow v.turns, .refl row, rfl⟩

/-- A visit renews a subscription, and tells the end that was there, or leaves its schedule as it
is. -/
theorem visit_cases (hw : w.InOrder)
    (hrow : SubscriptionStore.findById w.subscriptions id = some row) (sv : Services) (v : Visit) :
    ∃ row', SubscriptionStore.findById (w.visit sv v).world.subscriptions id = some row' ∧
      (((w.visit sv v).previousEnds id = [] ∧ row.SameOrigin row' ∧
          row'.endDate = row.endDate) ∨
        ((w.visit sv v).previousEnds id = [row.endDate] ∧
          Renewal.Extends w.plans row row')) := by
  have htelling := Scene.telling_visit sv w v
  by_cases hends : ∀ t ∈ (w.visit sv v).tasks, t.previousEnds id = []
  · obtain ⟨row', hrow', horigin, hend⟩ := row_of_no_renewal hw hrow sv v hends
    exact ⟨row', hrow', Or.inl ⟨List.flatMap_eq_nil_iff.mpr hends, horigin, hend⟩⟩
  · push Not at hends
    obtain ⟨t, ht, hends⟩ := hends
    obtain ⟨hu, before, after, hloaded, hstored, hextends, hprevious⟩ :=
      Task.extends_of_previousEnds (htelling.obeys t ht) hends
    have htarget : t.useCase.target? = some id := by rw [hu]; rfl
    obtain rfl := htelling.alone.loaded_eq ht htarget hrow hloaded
    obtain ⟨-, hafter⟩ := htelling.stored t ht after hstored
    have hid : after.id = id := by
      obtain ⟨_, _, _, -, -, rfl⟩ := hextends
      exact hw.subscriptions.named id.value before hrow
    rw [hid] at hafter
    refine ⟨after, hafter, Or.inr ⟨?_, hextends⟩⟩
    obtain ⟨x, hone⟩ := List.length_eq_one_iff.mp htelling.alone.alone
    obtain rfl := htelling.alone.eq_of_mem ht (by rw [hone, List.mem_singleton] : x ∈ _)
    rw [Scene.previousEnds, hone, List.flatMap_singleton, hprevious]

end Visit

end World

/-! ## The subscription on its schedule -/

/-- A subscription stands on its plan as it was opened, and ends the given number of periods after
its start. -/
structure World.OnSchedule (opened : Subscription) (interval : PlanInterval) (n : Nat)
    (w : World) : Prop where
  inOrder : w.InOrder
  plan : ∃ p, PlanStore.findById w.plans opened.plan = some p ∧ p.terms.interval = interval
  row : ∃ row e, SubscriptionStore.findById w.subscriptions opened.id = some row ∧
    opened.SameOrigin row ∧ row.endDate = some e ∧ advance interval n opened.startDate = some e

namespace World

variable {w : World} {opened : Subscription} {interval : PlanInterval} {n : Nat}

theorem OnSchedule.visit (h : w.OnSchedule opened interval n) (sv : Services) (v : Visit) :
    (w.visit sv v).world.OnSchedule opened interval
      (n + ((w.visit sv v).previousEnds opened.id).length) := by
  obtain ⟨row, e, hrow, horigin, hend, hn⟩ := h.row
  obtain ⟨p, hplan, hinterval⟩ := h.plan
  obtain ⟨horder, hkeeps⟩ := Scene.inOrder_run (s := Scene.start w [v.useCase]) h.inOrder sv v.turns
  refine ⟨horder, ⟨p, hkeeps _ p hplan, hinterval⟩, ?_⟩
  obtain ⟨row', hrow', ⟨hnone, horigin', hend'⟩ | ⟨hone, plan, e', now, hplan', he', rfl⟩⟩ :=
    visit_cases h.inOrder hrow sv v
  · rw [hnone]
    exact ⟨row', e, hrow', horigin.trans horigin', hend'.trans hend, hn⟩
  · -- the next period starts where the last one ended
    rw [horigin.plan, hplan] at hplan'
    cases hplan'
    rw [hone]
    refine ⟨_, e', hrow', horigin.trans ⟨rfl, rfl, rfl, rfl⟩, rfl, ?_⟩
    rw [List.length_singleton, advance_succ hn, ← he', hinterval, Renew.nextStart, hend]
    rfl

theorem OnSchedule.afterVisits (h : w.OnSchedule opened interval n) (sv : Services)
    (visits : List Visit) :
    (w.afterVisits sv visits).OnSchedule opened interval
      (n + w.renewals sv opened.id visits) := by
  induction visits generalizing w n with
  | nil => exact h
  | cons v rest ih =>
    rw [renewals, ← Nat.add_assoc]
    exact ih (h.visit sv v)

/-- A subscription with an end is on its schedule when it has been opened. -/
theorem onSchedule_of_opened (hw : w.InOrder) (sv : Services) {user : UserId} {planId : PlanId}
    {turns : List Turn} (hopened : opened ∈ (w.visit sv ⟨.subscribe user planId, turns⟩).opened)
    (hend : opened.endDate.isSome = true) :
    opened.user = user ∧ opened.plan = planId ∧ ∃ p, PlanStore.findById w.plans planId = some p ∧
      (w.visit sv ⟨.subscribe user planId, turns⟩).world.OnSchedule opened p.terms.interval 1 := by
  have htelling := Scene.telling_visit sv w ⟨.subscribe user planId, turns⟩
  obtain ⟨t, ht, hs⟩ := List.mem_filterMap.mp hopened
  obtain ⟨hstored, huser, hplan, p, hp, hfirst⟩ :=
    Task.stored_of_opened? (htelling.obeys t ht) (Scene.useCase_of_mem ht) hs
  obtain ⟨-, hrow⟩ := htelling.stored t ht opened hstored
  obtain ⟨e, he⟩ := Option.isSome_iff_exists.mp hend
  obtain ⟨horder, hkeeps⟩ := Scene.inOrder_run
    (s := Scene.start w [.subscribe user planId]) hw sv turns
  refine ⟨huser, hplan, p, hp, horder, ⟨p, ?_, rfl⟩, opened, e, hrow, .refl opened, he, ?_⟩
  · rw [hplan]
    exact hkeeps planId p hp
  · rw [advance, advance, ← he, hfirst]
    rfl

end World

/-- Renewals never drift.  A subscription that has been opened with an end, in any world that has
come about by what its stores offer, is there after whatever visits follow, with its user, plan
and start.  It ends as many periods after its start as these visits have renewed it, and one
more, and every renewal that follows tells that end as the one before. -/
theorem renewals_keep_schedule (sv : Services) (w : World) (history : List SubscriptionStore.Call)
    (hstore : w.subscriptions = SubscriptionStore.run history) (hplans : PlanStore.Filled w.plans)
    (user : UserId) (planId : PlanId) (turns : List Turn) (opened : Subscription)
    (hopened : opened ∈ (w.visit sv ⟨.subscribe user planId, turns⟩).opened)
    (hend : opened.endDate.isSome = true) (visits : List Visit) :
    let first := (w.visit sv ⟨.subscribe user planId, turns⟩).world
    let last := first.afterVisits sv visits
    opened.user = user ∧ opened.plan = planId ∧
      ∃ plan row, PlanStore.findById w.plans planId = some plan ∧
        SubscriptionStore.findById last.subscriptions opened.id = some row ∧
        opened.SameOrigin row ∧
        PeriodsEnd plan.terms.interval opened.startDate (first.renewals sv opened.id visits + 1)
          row.endDate ∧
        ∀ v, ∀ e ∈ (last.visit sv v).previousEnds opened.id, e = row.endDate := by
  intro first last
  have hw : w.InOrder := ⟨hplans.ordered, hstore ▸ SubscriptionStore.wellFormed_run history⟩
  obtain ⟨huser, hplan, p, hp, hfirst⟩ := World.onSchedule_of_opened hw sv hopened hend
  have hlast := hfirst.afterVisits sv visits
  rw [Nat.add_comm] at hlast
  obtain ⟨row, e, hrow, horigin, he, hadvance⟩ := hlast.row
  refine ⟨huser, hplan, p, row, hp, hrow, horigin, ?_, fun v previous hprevious => ?_⟩
  · rw [he]
    exact periodsEnd_of_advance hadvance
  · obtain ⟨-, -, ⟨hnone, -, -⟩ | ⟨hone, -⟩⟩ := World.visit_cases hlast.inOrder hrow sv v
    · rw [hnone] at hprevious
      cases hprevious
    · rw [hone] at hprevious
      exact List.mem_singleton.mp hprevious

/-- Whoever subscribes at the kiosk at the epoch and renews, cancels the renewal for a while and
renews again has paid for three months. -/
theorem three_months_of_two_renewals :
    let first := (World.kiosk.visit Services.lenient
      ⟨.subscribe ⟨7⟩ ⟨1⟩, Turn.inOrder .epoch [0, 0, 0, 0, 0, 0, 0]⟩).world
    let renewal : Visit := ⟨.renew ⟨1⟩, Turn.inOrder .epoch [0, 0, 0, 0, 0]⟩
    let visits : List Visit :=
      [renewal, ⟨.changeAutoRenew ⟨1⟩ false, Turn.inOrder .epoch [0, 0, 0]⟩, renewal,
        ⟨.changeAutoRenew ⟨1⟩ true, Turn.inOrder .epoch [0, 0, 0]⟩, renewal]
    first.renewals Services.lenient ⟨1⟩ visits = 2 ∧
      ∃ row, SubscriptionStore.findById
          (first.afterVisits Services.lenient visits).subscriptions ⟨1⟩ = some row ∧
        Instant.epoch.plusMonths? 3 = row.endDate := by
  intro first renewal visits
  have htwo : first.renewals Services.lenient ⟨1⟩ visits = 2 := by decide +kernel
  obtain ⟨-, -, plan, row, hplan, hrow, -, hends, -⟩ := renewals_keep_schedule Services.lenient
    World.kiosk [] rfl (PlanStore.Filled.create .empty Plan.monthly) ⟨7⟩ ⟨1⟩
    (Turn.inOrder .epoch [0, 0, 0, 0, 0, 0, 0])
    { SubscriptionStore.freshActive ⟨7⟩ with id := ⟨1⟩, endDate := Instant.epoch.plusMonths? 1 }
    (by decide +kernel) (by decide +kernel) visits
  cases hplan
  rw [htwo] at hends
  exact ⟨htwo, row, hrow, hends.months rfl (by decide +kernel)⟩

end RecurringBilling
