import RecurringBilling.Proofs.Billing.Periods
import RecurringBilling.Proofs.Billing.Renewal
import RecurringBilling.Proofs.Interleaving.Rows
import RecurringBilling.Proofs.Payment.Settlement

/-!
# Extension

Renewals of one subscription run side by side, and nobody else works on it.  Each writes
back the row that it has loaded with the end one period on, without looking whether
the row is still that one.  So the stored end is on the trail of the renewals, but two
renewals that loaded the same end extend it only once, although both keep what
they charged.
-/

namespace RecurringBilling

open RecurringBilling.Calendar

/-- The subscription is on a plan and ends a number of periods after an instant. -/
def Subscription.EndsAfter (plan : PlanId) (interval : PlanInterval) (e : Instant) (n : Nat)
    (s : Subscription) : Prop :=
  s.plan = plan ∧ ∃ x, s.endDate = some x ∧ advance interval n e = some x

namespace Task

/-- How far a renewal has come. -/
def renewal (plans : PlanStore) (t : Task) : Renewal := t.stateBy (Renewal.ofUseCase plans) .fresh

/-- The end from which a renewal of a subscription started, if it has succeeded. -/
def previousEnds (id : SubscriptionId) : Task → List (Option Instant)
  | { useCase := .renew id', log := _, rest := .done (.ok v) } =>
    if id' = id then [v.previousEnd] else []
  | _ => []

variable {plans : PlanStore} {id : SubscriptionId} {t : Task}

theorem previousEnds_of_other (hu : t.useCase ≠ .renew id) : t.previousEnds id = [] := by
  obtain ⟨u, log, rest⟩ := t
  cases u with
  | renew id' =>
    have hid : id' ≠ id := by
      intro heq
      exact hu (by rw [heq])
    cases rest with
    | call r next => rfl
    | done outcome =>
      cases outcome with
      | error e => rfl
      | ok v => simp [previousEnds, hid]
  | _ => rfl

/-- A renewal has succeeded exactly if it has stored the next period, and then tells the end that it
had loaded. -/
theorem previousEnds_eq (h : t.Obeys (Renewal.ofUseCase plans) .fresh)
    (hu : t.useCase = .renew id) : t.previousEnds id = (t.renewal plans).previousEnds := by
  obtain ⟨u, log, rest⟩ := t
  cases hu
  cases rest with
  | call r next =>
    have hallows : Renewal.allows plans (renewal plans _) r := h.1
    rw [Renewal.previousEnds_of_allows hallows]
    rfl
  | done outcome =>
    cases outcome with
    | error e =>
      have hends : ∀ before, renewal plans _ ≠ .stored before := h
      rw [Renewal.previousEnds_of_ne hends]
      rfl
    | ok v =>
      obtain ⟨before, hst, hprevious⟩ := h
      have hst' : renewal plans _ = .stored before := hst
      rw [hst']
      simp [previousEnds, Renewal.previousEnds, hprevious]

/-- A renewal that has succeeded tells one end and has one receipt. -/
theorem length_previousEnds_of_ok (hu : t.useCase = .renew id) {value : t.useCase.Value}
    (hok : t.outcome? = some (.ok value)) :
    (t.previousEnds id).length = (t.useCase.receipt? value).toList.length := by
  obtain ⟨u, log, rest⟩ := t
  cases hu
  cases rest with
  | call r next => cases hok
  | done outcome =>
    cases outcome with
    | error e => cases hok
    | ok v => simp [previousEnds, UseCase.receipt?]

theorem previousEnds_of_error (hu : t.useCase = .renew id) {error : t.useCase.Error}
    (herror : t.outcome? = some (.error error)) : t.previousEnds id = [] := by
  obtain ⟨u, log, rest⟩ := t
  cases hu
  cases rest with
  | call r next => rfl
  | done outcome =>
    cases outcome with
    | error e => rfl
    | ok v => cases herror

theorem renewal_advance (plans : PlanStore) {r : Request}
    (next : r.Answer → Program t.useCase.Outcome) (answer : r.Answer) (injected : Bool)
    (hu : t.useCase = .renew id) :
    (t.advance r next answer injected).renewal plans =
      (t.renewal plans).after { request := r, answer, injected } := by
  rw [renewal, stateBy_advance]
  obtain ⟨u, log, rest⟩ := t
  cases hu
  rfl

theorem renewal_allows {r : Request} {next : r.Answer → Program t.useCase.Outcome}
    (h : t.Obeys (Renewal.ofUseCase plans) .fresh) (hu : t.useCase = .renew id)
    (hrest : t.rest = .call r next) : Renewal.allows plans (t.renewal plans) r := by
  have hallows := h.allows hrest
  rw [renewal]
  obtain ⟨u, log, rest⟩ := t
  cases hu
  exact hallows

/-- A renewal goes on keeping to its course in a world that it may rely on. -/
theorem obeys_renewal_advance {r : Request} {next : r.Answer → Program t.useCase.Outcome}
    {answer : r.Answer} {injected : Bool} (h : t.Obeys (Renewal.ofUseCase plans) .fresh)
    (hu : t.useCase = .renew id) (hrest : t.rest = .call r next)
    (hrely : Renewal.rely plans { request := r, answer, injected }) :
    (t.advance r next answer injected).Obeys (Renewal.ofUseCase plans) .fresh := by
  apply h.advance hrest
  rw [hu]
  exact hrely

end Task

/-- A world that accepts charges is one that renewals may rely on. -/
theorem World.rely_renewal_serve (sv : Services) {w : World} (hdecline : w.ledger.decline = none)
    (r : Request) :
    Renewal.rely w.plans { request := r, answer := (w.serve sv r).1, injected := false } := by
  cases r with
  | findPlan id => exact rfl
  | charge s p => exact ⟨_, congrArg Prod.fst (serve_charge_of_accepting sv hdecline s p)⟩
  | _ => exact trivial

/-- A row that is there is replaced, unless another row of its user is active. -/
theorem World.serve_update_cases (sv : Services) {w : World} {c : Subscription}
    (hc : w.subscriptions.contains c.id.value = true) :
    w.serve sv (.updateSubscription c) = (.error (SubscriptionStore.secondActive c.user), w) ∨
      w.serve sv (.updateSubscription c) =
        (.ok (), { w with subscriptions := w.subscriptions.put c.id.value c }) := by
  have happly := SubscriptionStore.Call.apply_update w.subscriptions hc
  rw [SubscriptionStore.Call.unchecked_update hc] at happly
  simp only [serve]
  rw [show SubscriptionStore.update w.subscriptions c = _ from happly]
  split
  · exact Or.inl rfl
  · exact Or.inr rfl

namespace Scene

/-- The renewals of a subscription keep to their course, the stored row is on their trail, and so is
each row that one of them has loaded and not written back yet. -/
structure Extending (plans : PlanStore) (id : SubscriptionId) (plan : PlanId)
    (interval : PlanInterval) (e : Instant) (starts : List Nat) (reached : Nat) (s : Scene) :
    Prop where
  tended : s.Tended
  keeps : s.world.plans = plans
  accepting : s.world.ledger.decline = none
  alone : ∀ t ∈ s.tasks, t.useCase.target? = some id → t.useCase = .renew id
  obeys : ∀ t ∈ s.tasks, t.useCase = .renew id → t.Obeys (Renewal.ofUseCase plans) .fresh
  trail : Trail starts reached
  defined : ∀ a ∈ starts, ∃ x, advance interval a e = some x
  row : ∃ row, SubscriptionStore.findById s.world.subscriptions id = some row ∧
    row.EndsAfter plan interval e reached
  ends : (s.tasks.flatMap (Task.previousEnds id)).Perm (starts.map fun a => advance interval a e)
  loaded : ∀ t ∈ s.tasks, t.useCase = .renew id → ∀ before, t.renewal plans = .loaded before →
    ∃ a, before.EndsAfter plan interval e a ∧ (a = 0 ∨ a - 1 ∈ starts)

section Extending

variable {plans : PlanStore} {id : SubscriptionId} {plan : PlanId} {interval : PlanInterval}
  {e : Instant} {starts : List Nat} {reached : Nat} {s : Scene}

/-- One task changes, and perhaps the row, and the trail with them. -/
theorem Extending.replace (h : s.Extending plans id plan interval e starts reached) {i : Nat}
    {t t' : Task} {w : World} {starts' : List Nat} {reached' : Nat}
    (htask : s.tasks[i]? = some t) (hu : t'.useCase = t.useCase)
    (htended : Tended { world := w, tasks := s.tasks.set i t' }) (hkeeps : w.plans = plans)
    (haccepting : w.ledger.decline = none)
    (hobeys : t'.useCase = .renew id → t'.Obeys (Renewal.ofUseCase plans) .fresh)
    (htrail : Trail starts' reached') (hsubset : starts ⊆ starts')
    (hdefined : ∀ a ∈ starts', ∃ x, advance interval a e = some x)
    (hrow : ∃ row, SubscriptionStore.findById w.subscriptions id = some row ∧
      row.EndsAfter plan interval e reached')
    (hends : ((starts.map fun a => advance interval a e) ++ t'.previousEnds id).Perm
      ((starts'.map fun a => advance interval a e) ++ t.previousEnds id))
    (hloaded : t'.useCase = .renew id → ∀ before, t'.renewal plans = .loaded before →
      ∃ a, before.EndsAfter plan interval e a ∧ (a = 0 ∨ a - 1 ∈ starts')) :
    Extending plans id plan interval e starts' reached'
      { world := w, tasks := s.tasks.set i t' } where
  tended := htended
  keeps := hkeeps
  accepting := haccepting
  alone := by
    refine forall_mem_set h.alone ?_
    rw [hu]
    exact h.alone t (List.mem_of_getElem? htask)
  obeys := forall_mem_set h.obeys hobeys
  trail := htrail
  defined := hdefined
  row := hrow
  ends := by
    have hset := perm_flatMap_set htask (Task.previousEnds id) t'
    exact (List.perm_append_right_iff (t.previousEnds id)).mp
      (hset.trans ((h.ends.append_right _).trans hends))
  loaded := by
    refine forall_mem_set (fun x hx hxu before hbefore => ?_) hloaded
    obtain ⟨a, hafter, ha⟩ := h.loaded x hx hxu before hbefore
    exact ⟨a, hafter, ha.imp_right fun hmem => hsubset hmem⟩

/-- One task changes, but neither the row nor the trail. -/
theorem Extending.replace_idle (h : s.Extending plans id plan interval e starts reached) {i : Nat}
    {t t' : Task} {w : World} (htask : s.tasks[i]? = some t) (hu : t'.useCase = t.useCase)
    (htended : Tended { world := w, tasks := s.tasks.set i t' }) (hkeeps : w.plans = plans)
    (haccepting : w.ledger.decline = none)
    (hobeys : t'.useCase = .renew id → t'.Obeys (Renewal.ofUseCase plans) .fresh)
    (hrow : SubscriptionStore.findById w.subscriptions id =
      SubscriptionStore.findById s.world.subscriptions id)
    (hends : t'.previousEnds id = t.previousEnds id)
    (hloaded : t'.useCase = .renew id → ∀ before, t'.renewal plans = .loaded before →
      ∃ a, before.EndsAfter plan interval e a ∧ (a = 0 ∨ a - 1 ∈ starts)) :
    Extending plans id plan interval e starts reached
      { world := w, tasks := s.tasks.set i t' } := by
  refine h.replace htask hu htended hkeeps haccepting hobeys h.trail (fun _ ha => ha) h.defined
    ?_ ?_ hloaded
  · rw [hrow]
    exact h.row
  · rw [hends]

section Served

variable {turn : Turn} {t : Task} {r : Request} {next : r.Answer → Program t.useCase.Outcome}

/-- Whoever does not work on a subscription leaves its row alone. -/
theorem Tended.findById_of_other (h : s.Tended) (sv : Services) (ht : t ∈ s.tasks)
    (hrest : t.rest = .call r next) (hother : t.useCase.target? ≠ some id) {row : Subscription}
    (hrow : SubscriptionStore.findById s.world.subscriptions id = some row) :
    SubscriptionStore.findById ((s.world.facing turn).serve sv r).2.subscriptions id =
      some row := by
  have hcases := SubscriptionStore.Call.after_cases s.world.subscriptions
  rw [World.serve_subscriptions]
  cases r with
  | createSubscription c =>
    show SubscriptionStore.findById
      ((SubscriptionStore.Call.create c).after s.world.subscriptions) id = some row
    rcases hcases (.create c) with hsame | hunchecked
    · rw [hsame, hrow]
    -- a new row stands under a new number
    · have hissued := h.wellFormed.ordered.issued_of_find? hrow
      rw [hunchecked, SubscriptionStore.Call.unchecked, SubscriptionStore.findById,
        Store.find?_add, if_neg (by omega)]
      exact hrow
  | updateSubscription c =>
    obtain ⟨htarget, before, x, -, hx, -⟩ := h.row_of_update ht hrest
    have hne : id.value ≠ c.id.value := by
      intro heq
      apply hother
      rw [htarget]
      exact congrArg (fun n => some (SubscriptionId.mk n)) heq.symm
    show SubscriptionStore.findById
      ((SubscriptionStore.Call.update c).after s.world.subscriptions) id = some row
    rcases hcases (.update c) with hsame | hunchecked
    · rw [hsame, hrow]
    · rw [hunchecked, SubscriptionStore.Call.unchecked_update (by rw [Store.contains, hx]; rfl),
        SubscriptionStore.findById, Store.find?_put, if_neg hne]
      exact hrow
  | _ => exact hrow

theorem Extending.served_other (h : s.Extending plans id plan interval e starts reached)
    (sv : Services) (htask : s.tasks[turn.task]? = some t) (hrest : t.rest = .call r next)
    (hother : t.useCase ≠ .renew id) (htended : (s.served sv turn t r next).Tended)
    (hkeeps : ((s.world.facing turn).serve sv r).2.plans = plans)
    (haccepting : ((s.world.facing turn).serve sv r).2.ledger.decline = none) :
    (s.served sv turn t r next).Extending plans id plan interval e starts reached := by
  have ht : t ∈ s.tasks := List.mem_of_getElem? htask
  obtain ⟨row, hrow, -⟩ := h.row
  refine h.replace_idle htask rfl htended hkeeps haccepting (fun hu => absurd hu hother) ?_ ?_
    fun hu => absurd hu hother
  · have htarget : t.useCase.target? ≠ some id := fun htarget => hother (h.alone t ht htarget)
    rw [hrow]
    exact h.tended.findById_of_other sv ht hrest htarget hrow
  · have hother' : (t.advance r next ((s.world.facing turn).serve sv r).1 false).useCase ≠
        .renew id := hother
    rw [Task.previousEnds_of_other hother', Task.previousEnds_of_other hother]

/-- A renewal loads the stored row, which is on the trail. -/
theorem Extending.served_find (h : s.Extending plans id plan interval e starts reached)
    (sv : Services)
    {next : (Request.findSubscription id).Answer → Program t.useCase.Outcome}
    (htask : s.tasks[turn.task]? = some t) (hrest : t.rest = .call (.findSubscription id) next)
    (hu : t.useCase = .renew id) (htended : (s.served sv turn t (.findSubscription id) next).Tended)
    (hobeys : (t.advance _ next ((s.world.facing turn).serve sv (.findSubscription id)).1
      false).Obeys (Renewal.ofUseCase plans) .fresh) :
    (s.served sv turn t (.findSubscription id) next).Extending plans id plan interval e starts
      reached := by
  have ht : t ∈ s.tasks := List.mem_of_getElem? htask
  obtain ⟨row, hrow, hafter⟩ := h.row
  have hserve : (s.world.facing turn).serve sv (.findSubscription id) =
      (.ok (some row), s.world.facing turn) := by
    rw [← hrow]
    rfl
  have hfresh : t.renewal plans = .fresh :=
    Renewal.fresh_of_allows_find (Task.renewal_allows (h.obeys t ht hu) hu hrest)
  have hrenewal : (t.advance _ next ((s.world.facing turn).serve sv (.findSubscription id)).1
      false).renewal plans = .loaded row := by
    rw [Task.renewal_advance _ _ _ _ hu, hfresh, hserve]
    rfl
  refine h.replace_idle htask rfl htended h.keeps h.accepting (fun _ => hobeys) rfl ?_ ?_
  · rw [Task.previousEnds_eq (h.obeys t ht hu) hu, Task.previousEnds_eq hobeys hu, hfresh, hrenewal]
    rfl
  · intro _ before hbefore
    rw [hrenewal] at hbefore
    cases hbefore
    exact ⟨reached, hafter, h.trail.top⟩

/-- A renewal writes the subscription that it has loaded, and with the end one period on. -/
theorem Extending.write_of_renewal {p : Plan}
    (h : s.Extending plans id plan p.terms.interval e starts reached)
    (hplan : PlanStore.findById plans plan = some p) {c : Subscription}
    {next : (Request.updateSubscription c).Answer → Program t.useCase.Outcome}
    (ht : t ∈ s.tasks) (hrest : t.rest = .call (.updateSubscription c) next)
    (hu : t.useCase = .renew id) :
    c.id = id ∧ ∃ before a, t.renewal plans = .loaded before ∧ (a = 0 ∨ a - 1 ∈ starts) ∧
      before.EndsAfter plan p.terms.interval e a ∧ c.EndsAfter plan p.terms.interval e (a + 1) := by
  have htarget := (h.tended.row_of_update ht hrest).1
  rw [hu] at htarget
  refine ⟨(Option.some.inj htarget).symm, ?_⟩
  obtain ⟨before, hst, p', e', now, hp', he', rfl⟩ :=
    Renewal.loaded_of_allows_update (Task.renewal_allows (h.obeys t ht hu) hu hrest)
  obtain ⟨a, ⟨hplanId, y, hy, hya⟩, ha⟩ := h.loaded t ht hu before hst
  have hpp' : some p' = some p := by rw [← hp', hplanId, hplan]
  cases hpp'
  have hend : advance p.terms.interval (a + 1) e = some e' := by
    rw [advance_succ hya, ← he', Renew.nextStart, hy]
    rfl
  exact ⟨before, a, hst, ha, ⟨hplanId, y, hy, hya⟩, hplanId, e', rfl, hend⟩

/-- A renewal writes back what it has loaded with the end one period on: the trail grows, unless
the write is refused. -/
theorem Extending.served_update {p : Plan}
    (h : s.Extending plans id plan p.terms.interval e starts reached) (sv : Services)
    (hplan : PlanStore.findById plans plan = some p) {c : Subscription}
    {next : (Request.updateSubscription c).Answer → Program t.useCase.Outcome}
    (htask : s.tasks[turn.task]? = some t) (hrest : t.rest = .call (.updateSubscription c) next)
    (hu : t.useCase = .renew id)
    (htended : (s.served sv turn t (.updateSubscription c) next).Tended)
    (hobeys : (t.advance _ next ((s.world.facing turn).serve sv (.updateSubscription c)).1
      false).Obeys (Renewal.ofUseCase plans) .fresh) :
    ∃ starts' reached', (s.served sv turn t (.updateSubscription c) next).Extending plans id plan
      p.terms.interval e starts' reached' := by
  have ht : t ∈ s.tasks := List.mem_of_getElem? htask
  obtain ⟨hid, before, a, hst, ha, hbefore, hafter⟩ := h.write_of_renewal hplan ht hrest hu
  have hrenewal := Task.renewal_advance plans next
    ((s.world.facing turn).serve sv (.updateSubscription c)).1 false hu
  rw [hst] at hrenewal
  obtain ⟨row, hrow, -⟩ := h.row
  have hc : (s.world.facing turn).subscriptions.contains c.id.value = true := by
    rw [hid, Store.contains]
    exact Option.isSome_iff_exists.mpr ⟨row, hrow⟩
  rcases World.serve_update_cases sv hc with hrefused | hstored
  -- another row of the user has become active: nothing is stored
  · rw [hrefused] at hrenewal
    refine ⟨starts, reached, h.replace_idle htask rfl htended ?_ ?_ (fun _ => hobeys) ?_ ?_ ?_⟩
    · rw [hrefused]
      exact h.keeps
    · rw [hrefused]
      exact h.accepting
    · rw [hrefused]
      rfl
    · rw [Task.previousEnds_eq (h.obeys t ht hu) hu, Task.previousEnds_eq hobeys hu, hst,
        hrefused, hrenewal]
      rfl
    · intro _ x hx
      rw [hrefused, hrenewal] at hx
      cases hx
      exact ⟨a, hbefore, ha⟩
  -- whatever the row has become since, it is now as it was loaded, one period on
  · rw [hstored] at hrenewal
    obtain ⟨-, y, hy, hya⟩ := hbefore
    refine ⟨a :: starts, a + 1, h.replace htask rfl htended ?_ ?_ (fun _ => hobeys)
      (h.trail.write ha) (List.subset_cons_self a starts) ?_ ?_ ?_ ?_⟩
    · rw [hstored]
      exact h.keeps
    · rw [hstored]
      exact h.accepting
    · intro b hb
      rcases List.mem_cons.mp hb with rfl | hb
      · exact ⟨y, hya⟩
      · exact h.defined b hb
    · refine ⟨c, ?_, hafter⟩
      rw [hstored]
      show SubscriptionStore.findById (s.world.subscriptions.put c.id.value c) id = some c
      rw [SubscriptionStore.findById, Store.find?_put, hid, if_pos rfl]
    · rw [Task.previousEnds_eq (h.obeys t ht hu) hu, Task.previousEnds_eq hobeys hu, hst,
        hstored, hrenewal, List.map_cons, hya, ← hy]
      show (_ ++ [before.endDate]).Perm (_ :: _ ++ [])
      rw [List.append_nil]
      exact List.perm_append_singleton _ _
    · intro _ x hx
      rw [hstored, hrenewal] at hx
      cases hx

theorem Extending.served {p : Plan}
    (h : s.Extending plans id plan p.terms.interval e starts reached) (sv : Services)
    (hplan : PlanStore.findById plans plan = some p) (htask : s.tasks[turn.task]? = some t)
    (hrest : t.rest = .call r next) (htended : (s.served sv turn t r next).Tended) :
    ∃ starts' reached', (s.served sv turn t r next).Extending plans id plan p.terms.interval e
      starts' reached' := by
  have ht : t ∈ s.tasks := List.mem_of_getElem? htask
  have hgrounds := (h.tended.grounded t ht).obeys.grounds hrest
  have haccepting : ((s.world.facing turn).serve sv r).2.ledger.decline = none := by
    rw [World.serve_decline]
    exact h.accepting
  have hkeeps : ((s.world.facing turn).serve sv r).2.plans = plans :=
    ((h.tended.grounded t ht).serve_plans hrest sv _).trans h.keeps
  by_cases hu : t.useCase = .renew id
  · have hrely := World.rely_renewal_serve sv (w := s.world.facing turn) h.accepting r
    rw [World.facing_plans, h.keeps] at hrely
    have hobeys := Task.obeys_renewal_advance (h.obeys t ht hu) hu hrest hrely
    have hrenewal := Task.renewal_advance plans next
      ((s.world.facing turn).serve sv r).1 false hu
    cases r with
    | findSubscription id' =>
      have hid : id = id' := by
        have htarget : t.useCase.target? = some id' := hgrounds
        rw [hu] at htarget
        exact Option.some.inj htarget
      subst hid
      exact ⟨starts, reached, h.served_find sv htask hrest hu htended hobeys⟩
    | updateSubscription c => exact h.served_update sv hplan htask hrest hu htended hobeys
    | createSubscription c =>
      rw [hu] at hgrounds
      cases hgrounds.2.2
    | _ =>
      -- all other requests leave the rows alone, and the renewal where it was
      have hsame : (t.advance _ next ((s.world.facing turn).serve sv _).1 false).renewal plans =
          t.renewal plans := by
        rw [hrenewal]
        cases t.renewal plans <;> rfl
      refine ⟨starts, reached, h.replace_idle htask rfl htended hkeeps haccepting (fun _ => hobeys)
        ?_ ?_ ?_⟩
      · rw [World.serve_subscriptions]
        rfl
      · rw [Task.previousEnds_eq (h.obeys t ht hu) hu, Task.previousEnds_eq hobeys hu, hsame]
      · intro _ before hbefore
        exact h.loaded t ht hu before (hsame.symm.trans hbefore)
  · exact ⟨starts, reached, h.served_other sv htask hrest hu htended hkeeps haccepting⟩

end Served

theorem Extending.step {p : Plan}
    (h : s.Extending plans id plan p.terms.interval e starts reached) (sv : Services)
    (hplan : PlanStore.findById plans plan = some p) {turn : Turn} (hfault : turn.fault = none) :
    ∃ starts' reached', (s.step sv turn).Extending plans id plan p.terms.interval e
      starts' reached' := by
  have htended := h.tended.step sv turn
  rcases s.step_cases_of_no_fault sv hfault with hidle | ⟨t, r, next, htask, hrest, hserved⟩
  · rw [hidle]
    exact ⟨starts, reached, h⟩
  · rw [hserved] at htended ⊢
    exact h.served sv hplan htask hrest htended

theorem Extending.run {p : Plan}
    (h : s.Extending plans id plan p.terms.interval e starts reached) (sv : Services)
    (hplan : PlanStore.findById plans plan = some p) {turns : List Turn}
    (hturns : ∀ turn ∈ turns, turn.fault = none) :
    ∃ starts' reached', (s.run sv turns).Extending plans id plan p.terms.interval e
      starts' reached' := by
  refine run_invariant (I := fun s => ∃ starts reached, s.Extending plans id plan
    p.terms.interval e starts reached) ⟨starts, reached, h⟩ ?_
  rintro s turn hmem ⟨starts, reached, hs⟩
  exact hs.step sv hplan (hturns turn hmem)

theorem extending_start (interval : PlanInterval) {w : World} {calls : List UseCase}
    {row : Subscription} (hw : SubscriptionStore.WellFormed w.subscriptions)
    (hcalls : ∀ u ∈ calls, u.isSubscriptionWork = true)
    (halone : ∀ u ∈ calls, u.target? = some id → u = .renew id)
    (haccepting : w.ledger.decline = none)
    (hrow : SubscriptionStore.findById w.subscriptions id = some row)
    (hend : row.endDate = some e) :
    (Scene.start w calls).Extending w.plans id row.plan interval e [] 0 where
  tended := tended_start hw hcalls
  keeps := rfl
  accepting := haccepting
  alone := forall_mem_start w halone
  obeys := by
    refine forall_mem_start w fun u _ htu => ?_
    have hu : u = .renew id := htu
    subst hu
    exact Renewal.obeys_renew id
  trail := Trail.empty
  defined := by simp
  row := ⟨row, hrow, rfl, e, hend, rfl⟩
  ends := by
    rw [flatMap_start w calls fun u => by cases u <;> rfl]
    exact List.Perm.refl _
  loaded := by
    refine forall_mem_start w fun u _ _ before hbefore => ?_
    cases hbefore

/-- The stored end lies as many periods on as renewals have succeeded, or fewer, and exactly as many
if these started from different ends. -/
theorem Extending.reach (h : s.Extending plans id plan interval e starts reached) :
    ∃ row, SubscriptionStore.findById s.world.subscriptions id = some row ∧
      (∃ n, n ≤ (s.tasks.flatMap (Task.previousEnds id)).length ∧
        row.endDate = advance interval n e) ∧
      (row.endDate = advance interval (s.tasks.flatMap (Task.previousEnds id)).length e ↔
        (s.tasks.flatMap (Task.previousEnds id)).Nodup) := by
  obtain ⟨row, hrow, -, x, hx, hreached⟩ := h.row
  have hlength : (s.tasks.flatMap (Task.previousEnds id)).length = starts.length := by
    rw [h.ends.length_eq, List.length_map]
  have hnodup : (s.tasks.flatMap (Task.previousEnds id)).Nodup ↔ starts.Nodup := by
    rw [h.ends.nodup_iff, nodup_map_advance_iff h.defined]
  refine ⟨row, hrow, ⟨reached, ?_, hx.trans hreached.symm⟩, ?_⟩
  · rw [hlength]
    exact h.trail.reached_le
  · rw [hnodup, hlength, ← h.trail.reached_eq_iff, hx]
    constructor
    · intro hend
      exact advance_inj hreached hend.symm
    · intro heq
      rw [← heq, hreached]

end Extending

end Scene

end RecurringBilling
