import RecurringBilling.Proofs.Interleaving.Progress
import RecurringBilling.Proofs.Interleaving.Race

/-!
# One winner

The invariant of a race holds when it starts and is preserved by every turn without a
fault.  When all attempts of the user have returned, exactly one of them has won, and
seven turns each are enough for that.
-/

namespace RecurringBilling

open RecurringBilling.Calendar

namespace Scene

open SubscriptionStore (activeOf OneActive)

variable {user : UserId} {s : Scene}

/-- What has not been come across after a turn had not been come across before it. -/
theorem LeftTo.of_step {sv : Services} {turn : Turn} (h : (s.step sv turn).LeftTo user) :
    s.LeftTo user := by
  intro t ht hother id x htold
  obtain ⟨i, hi⟩ := List.getElem?_of_mem ht
  rcases s.step_task sv turn hi with ⟨hsame, -⟩ | ⟨-, r, next, answer, injected, -, hstep⟩
  · exact h t (List.mem_of_getElem? hsame) hother id x htold
  · exact h _ (List.mem_of_getElem? hstep) hother id x (htold.append _)

theorem raced_start {w : World} (hw : SubscriptionStore.WellFormed w.subscriptions)
    {calls : List UseCase} (hcalls : ∀ u ∈ calls, u.isSubscriptionWork = true)
    (huser : user.isAssigned = true) (hfree : activeOf w.subscriptions user = [])
    (haccepting : w.ledger.decline = none)
    (hplans : ∀ planId, .subscribe user planId ∈ calls →
      planId.isAssigned = true ∧ (PlanStore.findById w.plans planId).isSome = true) :
    (Scene.start w calls).Raced user where
  tended := tended_start hw hcalls
  accepting := haccepting
  plans := by
    refine forall_mem_start w fun u hu planId hplan => ?_
    have hu' : u = .subscribe user planId := hplan
    exact (hplans planId (hu' ▸ hu)).2
  obeys := by
    refine forall_mem_start w fun u hu hmine => ?_
    obtain ⟨planId, hplan⟩ := Task.exists_plan_of_subscribes hmine
    have hu' : u = .subscribe user planId := hplan
    subst hu'
    exact Attempt.obeys_subscribe huser (hplans planId hu).1
  rows := by
    have hnone : (Scene.start w calls).tasks.countP (Task.stores user) = 0 := by
      rw [List.countP_eq_zero]
      refine forall_mem_start w fun u _ => ?_
      simp [Task.stores, Task.attempt, Task.start, Task.stateBy]
    rw [hnone]
    exact congrArg List.length hfree
  atMostOne := by
    have hrows : (activeOf (Scene.start w calls).world.subscriptions user).length = 0 :=
      congrArg List.length hfree
    omega
  refused := by
    refine forall_mem_start w fun u _ _ hrefused => ?_
    cases hrefused

theorem Raced.step (h : s.Raced user) (sv : Services) {turn : Turn} (hfault : turn.fault = none)
    (hnow : turn.now.isBefore .epoch = false) (hleft : s.LeftTo user) :
    (s.step sv turn).Raced user := by
  have htended := h.tended.step sv turn
  rcases s.step_cases_of_no_fault sv hfault with hidle | ⟨t, r, next, htask, hrest, hserved⟩
  · rw [hidle]
    exact h
  · rw [hserved] at htended ⊢
    exact h.served sv htask hrest hnow htended (hleft t (List.mem_of_getElem? htask))

theorem Raced.run (h : s.Raced user) (sv : Services) {turns : List Turn}
    (hturns : ∀ turn ∈ turns, turn.fault = none ∧ turn.now.isBefore .epoch = false)
    (hleft : (s.run sv turns).LeftTo user) : (s.run sv turns).Raced user := by
  -- what has not been come across in the end had not been at any time before, so the invariant can
  -- be stated under that condition
  refine run_invariant (I := fun s => s.LeftTo user → s.Raced user) (fun _ => h) ?_ hleft
  intro s turn hmem hs hleft'
  exact (hs hleft'.of_step).step sv (hturns turn hmem).1 (hturns turn hmem).2 hleft'.of_step

/-- When all attempts of the user have returned, one has won and the others were refused. -/
theorem Raced.one_winner (h : s.Raced user)
    (hentered : ∃ t ∈ s.tasks, t.useCase.subscribes user = true)
    (hover : ∀ t ∈ s.tasks, t.useCase.subscribes user = true → t.isOver = true) :
    s.tasks.countP (fun t => t.useCase.subscribes user && t.succeeded) = 1 ∧
      ∀ t ∈ s.tasks, t.useCase.subscribes user = true →
        t.succeeded = true ∨ t.failure? = some (.alreadySubscribed user) := by
  have hcount : s.tasks.countP (fun t => t.useCase.subscribes user && t.succeeded) =
      s.tasks.countP (Task.stores user) := by
    apply List.countP_congr
    intro t ht
    cases hmine : t.useCase.subscribes user with
    | false => simp [Task.stores, hmine]
    | true =>
      have hiff := Task.succeeded_iff_attempt (h.obeys t ht hmine) hmine
      simp [Task.stores, hmine, hiff]
  have hends : ∀ t ∈ s.tasks, t.useCase.subscribes user = true → t.attempt = .stored ∨
      t.attempt = .refused ∧ t.failure? = some (.alreadySubscribed user) := by
    intro t ht hmine
    by_cases hstored : t.attempt = .stored
    · exact Or.inl hstored
    · exact Or.inr (Task.refused_of_isOver (h.obeys t ht hmine) hmine (hover t ht hmine) hstored)
  constructor
  · have hrows := h.rows
    have hatMostOne := h.atMostOne
    obtain ⟨t, ht, hmine⟩ := hentered
    -- a refused attempt was refused over a row, and each row was stored by an attempt
    have hpositive : 1 ≤ s.tasks.countP (Task.stores user) := by
      rcases hends t ht hmine with hstored | ⟨hrefused, -⟩
      · exact List.countP_pos_iff.mpr ⟨t, ht, by simp [Task.stores, hmine, hstored]⟩
      · have := h.refused t ht hmine hrefused
        omega
    omega
  · intro t ht hmine
    rcases hends t ht hmine with hstored | ⟨-, hfailure⟩
    · exact Or.inl ((Task.succeeded_iff_attempt (h.obeys t ht hmine) hmine).mpr hstored)
    · exact Or.inr hfailure

/-- Use cases that write subscriptions never give a user two active rows, whatever fails.  When
attempts of a user without an active row race each other, without faults, over an accepting ledger,
since 1970, and nobody else comes across a row of the user, seven turns are enough for each,
and once all have returned exactly one has succeeded and every other one has
reported the active subscription. -/
theorem one_racing_subscriber_wins (sv : Services) (w : World)
    (history : List SubscriptionStore.Call)
    (hstore : w.subscriptions = SubscriptionStore.run history) (calls : List UseCase)
    (hcalls : ∀ u ∈ calls, u.isSubscriptionWork = true) :
    (OneActive w.subscriptions → ∀ turns,
      OneActive ((start w calls).run sv turns).world.subscriptions) ∧
    ∀ (user : UserId) (turns : List Turn), user.isAssigned = true →
      activeOf w.subscriptions user = [] → w.ledger.decline = none →
      (∃ u ∈ calls, u.subscribes user = true) →
      (∀ planId, .subscribe user planId ∈ calls →
        planId.isAssigned = true ∧ (PlanStore.findById w.plans planId).isSome = true) →
      (∀ turn ∈ turns, turn.fault = none ∧ turn.now.isBefore .epoch = false) →
      let s := (start w calls).run sv turns
      s.LeftTo user →
        (∀ i t, s.tasks[i]? = some t → t.useCase.subscribes user = true →
          7 ≤ (turns.countP fun turn => decide (turn.task = i)) → t.isOver = true) ∧
        ((∀ t ∈ s.tasks, t.useCase.subscribes user = true → t.isOver = true) →
          s.tasks.countP (fun t => t.useCase.subscribes user && t.succeeded) = 1 ∧
            ∀ t ∈ s.tasks, t.useCase.subscribes user = true →
              t.succeeded = true ∨ t.failure? = some (.alreadySubscribed user)) := by
  have hw : SubscriptionStore.WellFormed w.subscriptions := by
    rw [hstore]
    exact SubscriptionStore.wellFormed_run history
  refine ⟨fun hone turns => (tended_start hw hcalls).run_oneActive hone sv turns, ?_⟩
  intro user turns huser hfree haccepting hentered hplans hturns s hleft
  have huseCases : s.tasks.map Task.useCase = calls := run_useCases sv w calls turns
  constructor
  · intro i t ht hmine hcount
    have hu : calls[i]? = some t.useCase := by rw [← huseCases, List.getElem?_map, ht]; rfl
    obtain ⟨planId, hplan⟩ := Task.exists_plan_of_subscribes hmine
    have hasks : t.useCase.program.AsksAtMost 7 := by
      rw [hplan]
      exact asksAtMost_subscribe user planId
    obtain ⟨t', ht', -, hover⟩ := isOver_of_turns sv w turns hu hasks hcount
    have htt' : some t = some t' := ht.symm.trans ht'
    cases htt'
    exact hover
  · intro hover
    have hraced := (raced_start hw hcalls huser hfree haccepting hplans).run sv hturns hleft
    obtain ⟨u, hu, hmine⟩ := hentered
    rw [← huseCases] at hu
    obtain ⟨t, ht, rfl⟩ := List.mem_map.mp hu
    exact hraced.one_winner ⟨t, ht, hmine⟩ hover

/-- Two attempts of one user that take turns: one of them wins. -/
theorem one_of_two_rivals_wins :
    let s := (start World.kiosk [.subscribe ⟨1⟩ ⟨1⟩, .subscribe ⟨1⟩ ⟨1⟩]).run Services.lenient
      (Turn.inOrder .epoch [0, 1, 0, 1, 0, 1, 0, 1, 0, 1, 0, 1, 0, 1])
    OneActive s.world.subscriptions ∧
      s.tasks.countP (fun t => t.useCase.subscribes ⟨1⟩ && t.succeeded) = 1 := by
  have hrace := one_racing_subscriber_wins Services.lenient World.kiosk [] rfl
    [.subscribe ⟨1⟩ ⟨1⟩, .subscribe ⟨1⟩ ⟨1⟩] (by decide)
  refine ⟨hrace.1 (fun _ => Nat.zero_le 1) _, ?_⟩
  refine ((hrace.2 ⟨1⟩ _ (by decide) rfl rfl ⟨_, List.mem_cons_self, by decide⟩ ?_ ?_ ?_).2 ?_).1
  · intro planId hmem
    have hplanId : planId = ⟨1⟩ := by simpa using hmem
    subst hplanId
    exact ⟨by decide, by decide +kernel⟩
  · decide +kernel
  · -- nobody but the rivals is there
    intro t ht hother
    have hmem := List.mem_map_of_mem (f := Task.useCase) ht
    rw [run_useCases] at hmem
    have hrival : t.useCase = .subscribe ⟨1⟩ ⟨1⟩ := by simpa using hmem
    rw [hrival] at hother
    cases hother
  · have hover : ((start World.kiosk [.subscribe ⟨1⟩ ⟨1⟩, .subscribe ⟨1⟩ ⟨1⟩]).run Services.lenient
        (Turn.inOrder .epoch [0, 1, 0, 1, 0, 1, 0, 1, 0, 1, 0, 1, 0, 1])).isOver = true := by
      decide +kernel
    exact fun t ht _ => List.all_eq_true.mp hover t ht

end Scene

end RecurringBilling
