import RecurringBilling.Proofs.Interleaving.Deeds
import RecurringBilling.Proofs.Interleaving.Race

/-!
# Changes that stand

A use case that replaces a subscription writes back the whole copy that it loaded, also in
the respects that it is not there to change.  So the status and the renewal flag of a row
change only when a use case sets them, except when one puts back a copy that it loaded
before the change of another.  Where no copy is put back, a change stands until the next
one.
-/

namespace RecurringBilling

open RecurringBilling.Calendar

/-- A respect in which subscriptions can be changed: how it is read, and what the write of a use
case sets it to, if it does; whether its charge was declined matters to a renewal.  What a
write does not set it takes over from the copy that was loaded. -/
structure Facet (β : Type) where
  read : Subscription → β
  sets? : UseCase → Option String → Option β
  replaces : ∀ {u : UseCase} {declined : Option String} {before after : Subscription},
    u.Replaces declined before after → read after = (sets? u declined).getD (read before)

namespace Facet

/-- The status is set by a change of status, and by a renewal whose charge was declined. -/
def status : Facet SubscriptionStatus where
  read := (·.status)
  sets?
    | .changeStatus _ code, _ => SubscriptionStatus.ofCode? code
    | .renew _, some _ => some .pastDue
    | _, _ => none
  replaces := by
    intro u declined before after h
    rcases h.cases with ⟨id, code, status, now, rfl, hstatus, rfl⟩ | ⟨id, on, now, rfl, rfl⟩ |
      ⟨id, reason, now, rfl, rfl, rfl⟩ | ⟨id, e, now, rfl, rfl, rfl⟩
    · simp [hstatus]
    · rfl
    · rfl
    · rfl

/-- The renewal flag is set by a change of renewal. -/
def autoRenew : Facet Bool where
  read := (·.autoRenew)
  sets?
    | .changeAutoRenew _ on, _ => some on
    | _, _ => none
  replaces := by
    intro u declined before after h
    rcases h.cases with ⟨id, code, status, now, rfl, -, rfl⟩ | ⟨id, on, now, rfl, rfl⟩ |
      ⟨id, reason, now, rfl, -, rfl⟩ | ⟨id, e, now, rfl, -, rfl⟩
    · rfl
    · rfl
    · rfl
    · rfl

end Facet

/-- The row has the facet that the task sets, if it sets one. -/
def Task.HasSet {β : Type} (F : Facet β) (t : Task) (x : Subscription) : Prop :=
  ∀ v, F.sets? t.useCase t.deeds.declined = some v → F.read x = v

theorem UseCase.Replaces.hasSet {β : Type} {t : Task} {before after : Subscription}
    (h : t.useCase.Replaces t.deeds.declined before after) (F : Facet β) : t.HasSet F after := by
  intro v hv
  rw [F.replaces h, hv, Option.getD_some]

/-- Whoever has succeeded about a row has written it. -/
theorem Task.Obeys.written_of_succeeded {t : Task} (h : t.Obeys UseCase.writesOnce {})
    (hsucceeded : t.succeeded = true) {id : SubscriptionId}
    (htarget : t.useCase.target? = some id) : t.deeds.written = true := by
  unfold succeeded at hsucceeded
  split at hsucceeded
  · next value houtcome =>
    obtain ⟨-, hnone | hwritten⟩ := h.ends houtcome
    · rw [hnone] at htarget
      cases htarget
    · exact hwritten
  · cases hsucceeded

/-- The subscription that the program is about to store in place of an earlier one. -/
def Program.replacement? {α : Type} : Program α → Option Subscription
  | .call (.updateSubscription c) _ => some c
  | _ => none

theorem Program.eq_call_of_replacement? {α : Type} {p : Program α} {c : Subscription}
    (h : p.replacement? = some c) : ∃ next, p = .call (.updateSubscription c) next := by
  unfold replacement? at h
  split at h
  · cases h
    exact ⟨_, rfl⟩
  · cases h

namespace Scene

section Facet

variable {β : Type}

/-- The task is about the row and sets the facet to the value. -/
def Sets (F : Facet β) (s : Scene) (turn : Turn) (id : SubscriptionId) (v : β) : Prop :=
  ∃ t, s.tasks[turn.task]? = some t ∧ t.useCase.target? = some id ∧
    F.sets? t.useCase t.deeds.declined = some v

/-- A row whose facet is another one after the turn had it set to that by the task whose turn it
was. -/
def ChangesBySetting (F : Facet β) (sv : Services) (s : Scene) (turn : Turn) : Prop :=
  ∀ id x y, SubscriptionStore.findById s.world.subscriptions id = some x →
    SubscriptionStore.findById (s.step sv turn).world.subscriptions id = some y →
    F.read y ≠ F.read x → s.Sets F turn id (F.read y)

/-- The task whose turn it is stores a copy whose facet it is not there to set, and which it loaded
with another value than the row has by now. -/
def PutsBack (F : Facet β) (sv : Services) (s : Scene) (turn : Turn) : Prop :=
  ∃ t ∈ s.tasks[turn.task]?, ∃ c ∈ t.rest.replacement?, ∃ before ∈ t.deeds.loaded,
    ∃ x ∈ SubscriptionStore.findById s.world.subscriptions c.id,
      F.sets? t.useCase t.deeds.declined = none ∧ F.read before ≠ F.read x ∧
        SubscriptionStore.findById (s.step sv turn).world.subscriptions c.id = some c

instance [DecidableEq β] (F : Facet β) (sv : Services) (s : Scene) (turn : Turn) :
    Decidable (s.PutsBack F sv turn) := by
  unfold PutsBack
  infer_instance

/-! ## One turn -/

/-- The store is tended, and every use case writes once and last. -/
structure Orderly (s : Scene) : Prop where
  tended : s.Tended
  obeys : ∀ t ∈ s.tasks, t.Obeys UseCase.writesOnce {}

theorem orderly_start {w : World} (hw : SubscriptionStore.WellFormed w.subscriptions)
    {calls : List UseCase} (hcalls : ∀ u ∈ calls, u.isSubscriptionWork = true) :
    (start w calls).Orderly :=
  ⟨tended_start hw hcalls, obeys_writesOnce_start w calls⟩

variable {s : Scene}

theorem Orderly.step (h : s.Orderly) (sv : Services) (turn : Turn) : (s.step sv turn).Orderly :=
  ⟨h.tended.step sv turn, obeys_writesOnce_step h.obeys⟩

/-- A row that is another one after the turn was replaced by the task whose turn it was. -/
theorem Orderly.replaced_of_ne (h : s.Orderly) {sv : Services} {turn : Turn} {id : SubscriptionId}
    {x y : Subscription} (hx : SubscriptionStore.findById s.world.subscriptions id = some x)
    (hy : SubscriptionStore.findById (s.step sv turn).world.subscriptions id = some y)
    (hne : y ≠ x) :
    ∃ t, s.tasks[turn.task]? = some t ∧ t.useCase.target? = some id ∧ y.id = id ∧
      t.rest.replacement? = some y := by
  have hsame : ∀ store : SubscriptionStore,
      store = (s.step sv turn).world.subscriptions → store.find? id.value ≠ some x := by
    rintro store rfl hsame
    exact hne (Option.some.inj (hy.symm.trans hsame))
  rcases s.step_subscriptions sv turn with hidle | ⟨t, r, next, call, htask, hrest, hcall, hafter⟩
  · exact absurd hx (hsame _ hidle.symm)
  · cases r with
    | createSubscription c =>
      cases hcall
      have hkept := SubscriptionStore.find?_after_create h.tended.wellFormed c hx
      exact absurd hkept (hsame _ hafter.symm)
    | updateSubscription c =>
      cases hcall
      obtain ⟨htarget, -, z, -, hz, -⟩ :=
        h.tended.row_of_update (List.mem_of_getElem? htask) hrest
      rcases SubscriptionStore.find?_after_update hz id.value with hkept | ⟨hid, hnew⟩
      · exact absurd (hkept.trans hx) (hsame _ hafter.symm)
      · rw [← hafter] at hnew
        obtain rfl := Option.some.inj (hy.symm.trans hnew)
        have hyid : y.id = id := by
          cases id
          exact congrArg SubscriptionId.mk hid.symm
        refine ⟨t, htask, hyid ▸ htarget, hyid, ?_⟩
        rw [hrest, Program.replacement?]
    | _ => cases hcall

/-- What a task is about to store has the facet that the task sets, or else the one it loaded. -/
theorem Orderly.read_replacement (h : s.Orderly) (F : Facet β) {t : Task} (ht : t ∈ s.tasks)
    {c : Subscription} (hc : t.rest.replacement? = some c) :
    ∃ before, t.deeds.loaded = some before ∧
      F.read c = (F.sets? t.useCase t.deeds.declined).getD (F.read before) := by
  obtain ⟨next, hrest⟩ := Program.eq_call_of_replacement? hc
  obtain ⟨-, before, hbefore, hreplaces⟩ := (h.obeys t ht).permits hrest
  exact ⟨before, hbefore, F.replaces hreplaces⟩

/-- A facet changes only by being set, unless a copy is put back. -/
theorem Orderly.changesBySetting_iff (h : s.Orderly) (F : Facet β) (sv : Services) (turn : Turn) :
    s.ChangesBySetting F sv turn ↔ ¬ s.PutsBack F sv turn := by
  constructor
  · rintro hlaw ⟨t, ht, c, hc, before, hbefore, x, hx, hnone, hne, hy⟩
    obtain ⟨before', hbefore', hread⟩ :=
      h.read_replacement F (List.mem_of_getElem? ht) hc
    cases hbefore'.symm.trans hbefore
    rw [hnone, Option.getD_none] at hread
    obtain ⟨t', ht', -, hsets⟩ := hlaw c.id x c hx hy (hread ▸ hne)
    cases ht.symm.trans ht'
    rw [hnone] at hsets
    cases hsets
  · intro hnot id x y hx hy hne
    obtain ⟨t, ht, htarget, rfl, hreplacement⟩ :=
      h.replaced_of_ne hx hy fun heq => hne (congrArg F.read heq)
    obtain ⟨before, hbefore, hread⟩ :=
      h.read_replacement F (List.mem_of_getElem? ht) hreplacement
    cases hsets : F.sets? t.useCase t.deeds.declined with
    | some v =>
      rw [hsets, Option.getD_some] at hread
      exact ⟨t, ht, htarget, hread ▸ hsets⟩
    | none =>
      -- nobody sets the facet, so it is the one of the copy, and the copy is put back
      rw [hsets, Option.getD_none] at hread
      rw [hread] at hne
      exact absurd ⟨t, ht, y, hreplacement, before, hbefore, x, hx, hsets, hne, hy⟩ hnot

end Facet

/-! ## Whole schedules -/

/-- Every turn of the schedule has the property in the scene in which it is taken. -/
def Throughout (sv : Services) (P : Scene → Turn → Prop) : Scene → List Turn → Prop
  | _, [] => True
  | s, turn :: turns => P s turn ∧ Throughout sv P (s.step sv turn) turns

instance decidableThroughout (sv : Services) (P : Scene → Turn → Prop)
    [∀ s turn, Decidable (P s turn)] :
    ∀ s turns, Decidable (Throughout sv P s turns)
  | _, [] => isTrue trivial
  | s, turn :: turns =>
    have := decidableThroughout sv P (s.step sv turn) turns
    inferInstanceAs (Decidable (P s turn ∧ Throughout sv P (s.step sv turn) turns))

variable {β : Type} {s : Scene}

theorem Throughout.imp {sv : Services} {P Q : Scene → Turn → Prop} {turns : List Turn}
    (h : Throughout sv P s turns) (hPQ : ∀ s turn, P s turn → Q s turn) :
    Throughout sv Q s turns := by
  induction turns generalizing s with
  | nil => exact trivial
  | cons turn turns ih => exact ⟨hPQ s turn h.1, ih h.2⟩

theorem Orderly.run (h : s.Orderly) (sv : Services) (turns : List Turn) :
    (s.run sv turns).Orderly :=
  run_invariant h fun _ turn _ hs => hs.step sv turn

theorem Orderly.throughout_congr {sv : Services} {P Q : Scene → Turn → Prop}
    (hPQ : ∀ {s}, s.Orderly → ∀ turn, P s turn ↔ Q s turn) (h : s.Orderly) (turns : List Turn) :
    Throughout sv P s turns ↔ Throughout sv Q s turns := by
  induction turns generalizing s with
  | nil => exact Iff.rfl
  | cons turn turns ih => exact and_congr (hPQ h turn) (ih (h.step sv turn))

/-- Some turn of the schedule is taken by a task that is about the row and sets the facet to the
value. -/
def SetsWithin (F : Facet β) (sv : Services) (s : Scene) (turns : List Turn)
    (id : SubscriptionId) (v : β) : Prop :=
  ∃ earlier turn later, turns = earlier ++ turn :: later ∧ (s.run sv earlier).Sets F turn id v

theorem SetsWithin.cons {F : Facet β} {sv : Services} {turn : Turn} {turns : List Turn}
    {id : SubscriptionId} {v : β} (h : (s.step sv turn).SetsWithin F sv turns id v) :
    s.SetsWithin F sv (turn :: turns) id v := by
  obtain ⟨earlier, setting, later, rfl, hsets⟩ := h
  exact ⟨turn :: earlier, setting, later, rfl, hsets⟩

/-- Where no copy is put back, the facet of a row stays until a task sets it. -/
theorem Orderly.stands_or_set (h : s.Orderly) (F : Facet β) (sv : Services) {turns : List Turn}
    (hturns : Throughout sv (fun s turn => ¬ s.PutsBack F sv turn) s turns)
    {id : SubscriptionId} {x : Subscription}
    (hx : SubscriptionStore.findById s.world.subscriptions id = some x) :
    ∃ y, SubscriptionStore.findById (s.run sv turns).world.subscriptions id = some y ∧
      (F.read y = F.read x ∨ s.SetsWithin F sv turns id (F.read y)) := by
  induction turns generalizing s x with
  | nil => exact ⟨x, hx, Or.inl rfl⟩
  | cons turn turns ih =>
    obtain ⟨hturn, hrest⟩ := hturns
    obtain ⟨x', hx', -⟩ := h.tended.keepsOwners sv turn id.value x hx
    obtain ⟨y, hy, hstands | hset⟩ := ih (h.step sv turn) hrest hx'
    · refine ⟨y, hy, ?_⟩
      by_cases hsame : F.read x' = F.read x
      · exact Or.inl (hstands.trans hsame)
      · -- this turn has changed the facet for the last time, so it has set it
        have hsets := (h.changesBySetting_iff F sv turn).mpr hturn id x x' hx hx' hsame
        rw [← hstands] at hsets
        exact Or.inr ⟨[], turn, turns, rfl, hsets⟩
    · exact ⟨y, hy, Or.inr hset.cons⟩

/-! ## What those who have returned have set -/

/-- Whoever writes a row in a turn leaves it as a replacement of the one that it has loaded. -/
theorem Orderly.replaces_of_step (h : s.Orderly) {sv : Services} {turn : Turn} {t : Task}
    (ht : t ∈ (s.step sv turn).tasks) (hwritten : t.deeds.written = true) {id : SubscriptionId}
    (htarget : t.useCase.target? = some id) :
    t ∈ s.tasks ∨
      ∃ before x, t.useCase.Replaces t.deeds.declined before x ∧
        SubscriptionStore.findById (s.step sv turn).world.subscriptions id = some x := by
  rcases s.step_cases sv turn with hidle | ⟨t₀, r, next, htask, hrest, hserved | hstruck⟩
  · exact Or.inl (hidle ▸ ht)
  · rw [hserved] at ht ⊢
    have ht₀ := List.mem_of_getElem? htask
    rcases List.mem_or_eq_of_mem_set ht with hother | rfl
    · exact Or.inl hother
    · have hobeys := h.obeys t₀ ht₀
      have hwrite := Task.isWrite_of_advance (hobeys.permits hrest).unwritten hwritten
      obtain ⟨before, c, rfl, -, hreplaces, hserve⟩ :=
        hobeys.replaces_of_write hrest htarget hwrite
      refine Or.inr ⟨before, c, ?_, ?_⟩
      · rw [Task.deeds_advance, Deeds.after_of_isWrite hwrite]
        exact hreplaces
      · -- it is about the row that it replaces
        obtain ⟨hid, -⟩ := h.tended.row_of_update ht₀ hrest
        obtain rfl := Option.some.inj (hid.symm.trans htarget)
        rw [served, hserve, SubscriptionStore.findById, Store.find?_put, if_pos rfl]
  · obtain ⟨fault, answer, -, hanswer, hstep⟩ := hstruck
    rw [hstep] at ht
    have ht₀ := List.mem_of_getElem? htask
    rcases List.mem_or_eq_of_mem_set ht with hother | rfl
    · exact Or.inl hother
    · have hwrite :=
        Task.isWrite_of_advance ((h.obeys t₀ ht₀).permits hrest).unwritten hwritten
      rw [Fault.isWrite_answer hanswer] at hwrite
      cases hwrite

/-- Whoever has written a row by the end of a schedule has left it as a replacement of the one that
it has loaded, at some moment of the schedule. -/
theorem Orderly.replaces_of_written (h : s.Orderly)
    (hstart : ∀ t ∈ s.tasks, t.deeds.written = false) {sv : Services} {turns : List Turn} {t : Task}
    (ht : t ∈ (s.run sv turns).tasks) (hwritten : t.deeds.written = true) {id : SubscriptionId}
    (htarget : t.useCase.target? = some id) :
    ∃ done since before x, turns = done ++ since ∧
      t.useCase.Replaces t.deeds.declined before x ∧
      SubscriptionStore.findById (s.run sv done).world.subscriptions id = some x := by
  induction turns using List.reverseRecOn with
  | nil =>
    have hunwritten := hstart t ht
    rw [hwritten] at hunwritten
    cases hunwritten
  | append_singleton turns turn ih =>
    have hstep : s.run sv (turns ++ [turn]) = (s.run sv turns).step sv turn :=
      run_append sv s turns [turn]
    rw [hstep] at ht
    rcases (h.run sv turns).replaces_of_step ht hwritten htarget with
      hearlier | ⟨before, x, hreplaces, hx⟩
    · obtain ⟨done, since, before, x, rfl, hrow⟩ := ih hearlier
      exact ⟨done, since ++ [turn], before, x, List.append_assoc .., hrow⟩
    · refine ⟨turns ++ [turn], [], before, x, (List.append_nil _).symm, hreplaces, ?_⟩
      rw [hstep, hx]

/-- Whatever use cases work on subscriptions, and in whatever turns, the status and the renewal
flag of a row change only when a task sets them if and only if no task ever stores a copy with
a status or flag that it is not there to set and that has been changed since it was loaded.
Then a row has at any later time the status and the flag that it had, or that a task has set
since; and there was a moment at which it had what a task that has succeeded set. -/
theorem changes_stand_iff (sv : Services) (w : World) (history : List SubscriptionStore.Call)
    (hstore : w.subscriptions = SubscriptionStore.run history) (calls : List UseCase)
    (hcalls : ∀ u ∈ calls, u.isSubscriptionWork = true) (turns : List Turn) :
    (Throughout sv
        (fun s turn =>
          s.ChangesBySetting Facet.status sv turn ∧ s.ChangesBySetting Facet.autoRenew sv turn)
        (start w calls) turns ↔
      Throughout sv
        (fun s turn => ¬ s.PutsBack Facet.status sv turn ∧ ¬ s.PutsBack Facet.autoRenew sv turn)
        (start w calls) turns) ∧
    (∀ earlier later, turns = earlier ++ later →
      let s := (start w calls).run sv earlier
      Throughout sv
          (fun s turn => ¬ s.PutsBack Facet.status sv turn ∧ ¬ s.PutsBack Facet.autoRenew sv turn)
          s later →
        ∀ id x, SubscriptionStore.findById s.world.subscriptions id = some x →
          ∃ y, SubscriptionStore.findById
              ((start w calls).run sv turns).world.subscriptions id = some y ∧
            (y.status = x.status ∨ s.SetsWithin Facet.status sv later id y.status) ∧
            (y.autoRenew = x.autoRenew ∨
              s.SetsWithin Facet.autoRenew sv later id y.autoRenew)) ∧
    ∀ t ∈ ((start w calls).run sv turns).tasks, t.succeeded = true →
      ∀ id, t.useCase.target? = some id →
        ∃ done since x, turns = done ++ since ∧
          SubscriptionStore.findById
            ((start w calls).run sv done).world.subscriptions id = some x ∧
          t.HasSet Facet.status x ∧ t.HasSet Facet.autoRenew x := by
  have hwell : SubscriptionStore.WellFormed w.subscriptions := by
    rw [hstore]
    exact SubscriptionStore.wellFormed_run history
  have horderly := orderly_start hwell hcalls
  refine ⟨?_, ?_, ?_⟩
  · refine horderly.throughout_congr (fun hs turn => ?_) turns
    exact and_congr (hs.changesBySetting_iff _ sv turn) (hs.changesBySetting_iff _ sv turn)
  · rintro earlier later rfl s hlater id x hx
    have hs : s.Orderly := horderly.run sv earlier
    obtain ⟨y, hy, hstatus⟩ :=
      hs.stands_or_set Facet.status sv (hlater.imp fun _ _ h => h.1) hx
    obtain ⟨y', hy', hautoRenew⟩ :=
      hs.stands_or_set Facet.autoRenew sv (hlater.imp fun _ _ h => h.2) hx
    cases hy.symm.trans hy'
    rw [run_append]
    exact ⟨y, hy, hstatus, hautoRenew⟩
  · intro t ht hsucceeded id htarget
    have hwritten :=
      ((horderly.run sv turns).obeys t ht).written_of_succeeded hsucceeded htarget
    have hstart : ∀ t ∈ (start w calls).tasks, t.deeds.written = false :=
      forall_mem_start w fun _ _ => rfl
    obtain ⟨done, since, before, x, hturns, hreplaces, hx⟩ :=
      horderly.replaces_of_written hstart ht hwritten htarget
    exact ⟨done, since, x, hturns, hx, hreplaces.hasSet _, hreplaces.hasSet _⟩

/-! ## A cancellation beside a change of renewal -/

/-- One after the other, both changes stand. -/
theorem both_changes_stand :
    let calls : List UseCase := [.changeAutoRenew ⟨1⟩ false, .changeStatus ⟨1⟩ "Cancelled"]
    let s := (start World.subscribedKiosk calls).run Services.lenient
      (Turn.inOrder .epoch [0, 0, 0, 1, 1, 1])
    (SubscriptionStore.findById s.world.subscriptions ⟨1⟩).map
        (fun x => (x.status, x.autoRenew)) = some (.cancelled, false) ∧
      Throughout Services.lenient
        (fun s turn =>
          s.ChangesBySetting Facet.status Services.lenient turn ∧
            s.ChangesBySetting Facet.autoRenew Services.lenient turn)
        (start World.subscribedKiosk calls) (Turn.inOrder .epoch [0, 0, 0, 1, 1, 1]) := by
  refine ⟨by decide +kernel, ?_⟩
  exact (changes_stand_iff Services.lenient World.subscribedKiosk
    [.create { SubscriptionStore.freshActive ⟨7⟩ with endDate := some .epoch }] rfl
    [.changeAutoRenew ⟨1⟩ false, .changeStatus ⟨1⟩ "Cancelled"] (by decide)
    (Turn.inOrder .epoch [0, 0, 0, 1, 1, 1])).1.mpr (by decide +kernel)

/-- A subscription is cancelled after a change of renewal has loaded it and before that change is
stored.  Both succeed, and the subscription is active again: the store is as if the copy had
been stored last. -/
theorem cancellation_put_back :
    let calls : List UseCase := [.changeAutoRenew ⟨1⟩ false, .changeStatus ⟨1⟩ "Cancelled"]
    let cancelled := (start World.subscribedKiosk calls).run Services.lenient
      (Turn.inOrder .epoch [0, 1, 1, 1])
    let s := cancelled.run Services.lenient (Turn.inOrder .epoch [0, 0])
    let row := { SubscriptionStore.freshActive ⟨7⟩ with id := ⟨1⟩, endDate := some .epoch }
    cancelled.tasks.map Task.succeeded = [false, true] ∧
      (SubscriptionStore.findById cancelled.world.subscriptions ⟨1⟩).map (·.status) =
        some .cancelled ∧
      s.tasks.map Task.succeeded = [true, true] ∧
      (SubscriptionStore.findById s.world.subscriptions ⟨1⟩).map (·.status) = some .active ∧
      s.world.subscriptions = SubscriptionStore.run
        [.create { row with id := .unassigned }, .update { row with status := .cancelled },
          .update { row with autoRenew := false }] ∧
      ¬ Throughout Services.lenient
        (fun s turn => s.ChangesBySetting Facet.status Services.lenient turn)
        (start World.subscribedKiosk calls) (Turn.inOrder .epoch [0, 1, 1, 1, 0, 0]) := by
  intro calls cancelled s row
  have horderly : (start World.subscribedKiosk calls).Orderly :=
    orderly_start (SubscriptionStore.wellFormed_run _) (by decide)
  refine ⟨by decide +kernel, by decide +kernel, by decide +kernel, by decide +kernel,
    by decide +kernel, fun hlaw => ?_⟩
  have hkept := (horderly.throughout_congr (fun hs turn => hs.changesBySetting_iff Facet.status
    Services.lenient turn) (Turn.inOrder .epoch [0, 1, 1, 1, 0, 0])).mp hlaw
  have hback : ¬ Throughout Services.lenient
      (fun s turn => ¬ s.PutsBack Facet.status Services.lenient turn)
      (start World.subscribedKiosk calls) (Turn.inOrder .epoch [0, 1, 1, 1, 0, 0]) := by
    decide +kernel
  exact hback hkept

end Scene

end RecurringBilling
