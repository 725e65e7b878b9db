import RecurringBilling.Proofs.Interleaving.UseCase
import RecurringBilling.World.Basic

/-!
# Use cases side by side

A scene is a world and the use cases under way in it.  A turn lets one of them ask
its next request, at a reading of the clock, with a salt for what is hashed and perhaps
with a fault that answers in place of the world; a list of turns is a schedule.  Nothing
is assumed of the order of the turns, so a statement about every list of turns is one
about every interleaving.  Each use case keeps a log of what it asked and was answered.
-/

namespace RecurringBilling

open RecurringBilling.Calendar

/-- A request, its answer, and whether a fault gave it. -/
structure Exchange where
  request : Request
  answer : request.Answer
  injected : Bool

/-- A use case under way: what it has asked so far and what is left of it. -/
structure Task where
  useCase : UseCase
  log : List Exchange
  rest : Program useCase.Outcome

namespace Task

/-- A use case that has not asked anything yet. -/
def start (u : UseCase) : Task := { useCase := u, log := [], rest := u.program }

/-- The outcome of the use case once it has returned. -/
def outcome? (t : Task) : Option t.useCase.Outcome :=
  match t.rest with
  | .done outcome => some outcome
  | .call _ _ => none

/-- The use case has returned. -/
def isOver (t : Task) : Bool := t.outcome?.isSome

/-- The use case has returned a value. -/
def succeeded (t : Task) : Bool :=
  match t.outcome? with
  | some (.ok _) => true
  | _ => false

/-- The billing error with which the use case has returned. -/
def failure? (t : Task) : Option BillingError :=
  match t.outcome? with
  | some (.error e) => t.useCase.billingError? e
  | _ => none

/-- The use case after its request has been answered. -/
def advance (t : Task) (r : Request) (next : r.Answer → Program t.useCase.Outcome)
    (answer : r.Answer) (injected : Bool) : Task :=
  { useCase := t.useCase
    log := t.log ++ [{ request := r, answer, injected }]
    rest := next answer }

@[simp]
theorem advance_useCase (t : Task) (r : Request)
    (next : r.Answer → Program t.useCase.Outcome) (answer : r.Answer) (injected : Bool) :
    (t.advance r next answer injected).useCase = t.useCase := rfl

@[simp]
theorem advance_log (t : Task) (r : Request)
    (next : r.Answer → Program t.useCase.Outcome) (answer : r.Answer) (injected : Bool) :
    (t.advance r next answer injected).log = t.log ++ [{ request := r, answer, injected }] := rfl

theorem outcome?_eq_none_of_call {t : Task} {r : Request}
    {next : r.Answer → Program t.useCase.Outcome} (hrest : t.rest = .call r next) :
    t.outcome? = none := by
  rw [outcome?, hrest]

theorem rest_eq_done_of_outcome? {t : Task} {outcome : t.useCase.Outcome}
    (h : t.outcome? = some outcome) : t.rest = .done outcome := by
  unfold outcome? at h
  split at h
  · next hrest =>
    cases h
    exact hrest
  · cases h

end Task

/-- What holds of all tasks and of a new one holds of all when the new one takes a place. -/
theorem forall_mem_set {P : Task → Prop} {tasks : List Task} {i : Nat} {t : Task}
    (hold : ∀ x ∈ tasks, P x) (hnew : P t) : ∀ x ∈ tasks.set i t, P x := by
  intro x hx
  rcases List.mem_or_eq_of_mem_set hx with hmem | rfl
  · exact hold x hmem
  · exact hnew

/-- Exchanging one task exchanges what it contributes. -/
theorem perm_flatMap_set {β : Type} {tasks : List Task} {i : Nat} {t : Task}
    (htask : tasks[i]? = some t) (f : Task → List β) (t' : Task) :
    ((tasks.set i t').flatMap f ++ f t).Perm (tasks.flatMap f ++ f t') := by
  induction tasks generalizing i with
  | nil => simp at htask
  | cons head tail ih =>
    cases i with
    | zero =>
      have hhead : head = t := by simpa using htask
      subst hhead
      -- the contribution of the first task changes places with that of the new one
      simp only [List.set_cons_zero, List.flatMap_cons]
      exact List.perm_append_comm.trans
        ((List.perm_append_comm.append_left (f head)).trans (by simp))
    | succ i =>
      have htail : tail[i]? = some t := by simpa using htask
      simpa only [List.set_cons_succ, List.flatMap_cons, List.append_assoc] using
        (ih htail).append_left (f head)

/-- Whose turn it is, what the clock shows, the salt that is drawn, and the fault that waits. -/
structure Turn where
  task : Nat
  now : Instant
  salt : List UInt8 := []
  fault : Option Fault := none
  deriving DecidableEq

/-- The world as the task whose turn it is meets it. -/
def World.facing (w : World) (turn : Turn) : World :=
  { w with now := turn.now, salt := turn.salt, faults := turn.fault.toList }

/-- A world and the use cases under way in it. -/
structure Scene where
  world : World
  tasks : List Task

namespace Scene

/-- Every use case is about to begin. -/
def start (w : World) (useCases : List UseCase) : Scene :=
  { world := w, tasks := useCases.map Task.start }

theorem forall_mem_start {P : Task → Prop} (w : World) {calls : List UseCase}
    (h : ∀ u ∈ calls, P (Task.start u)) : ∀ t ∈ (start w calls).tasks, P t := by
  intro t ht
  obtain ⟨u, hu, rfl⟩ := List.mem_map.mp ht
  exact h u hu

/-- What no use case contributes at the start is not there at the start. -/
theorem flatMap_start {β : Type} (w : World) (calls : List UseCase) {f : Task → List β}
    (hf : ∀ u, f (Task.start u) = []) : (start w calls).tasks.flatMap f = [] := by
  rw [List.flatMap_eq_nil_iff]
  exact forall_mem_start w fun u _ => hf u

/-- Every use case has returned. -/
def isOver (s : Scene) : Bool := s.tasks.all (·.isOver)

/-- One turn.  A turn of a task that has returned changes nothing. -/
def step (sv : Services) (s : Scene) (turn : Turn) : Scene :=
  match s.tasks[turn.task]? with
  | none => s
  | some t =>
    match t.rest with
    | .done _ => s
    | .call r next =>
      -- the fault of the turn answers only if it waits for a request of this kind
      let w := s.world.facing turn
      let reply := w.answer sv r
      { world := reply.2
        tasks := s.tasks.set turn.task
          (t.advance r next reply.1 (World.takeFault? r w.faults).isSome) }

/-- One turn after the other. -/
def run (sv : Services) (s : Scene) (turns : List Turn) : Scene := turns.foldl (step sv) s

/-! ## What a turn can do -/

/-- The scene after the world has answered the request of a task. -/
def served (sv : Services) (s : Scene) (turn : Turn) (t : Task) (r : Request)
    (next : r.Answer → Program t.useCase.Outcome) : Scene :=
  { world := ((s.world.facing turn).serve sv r).2
    tasks := s.tasks.set turn.task
      (t.advance r next ((s.world.facing turn).serve sv r).1 false) }

/-- The scene after a fault has answered the request of a task. -/
def struck (s : Scene) (turn : Turn) (t : Task) (r : Request)
    (next : r.Answer → Program t.useCase.Outcome) (answer : r.Answer) : Scene :=
  { world := { s.world with now := turn.now, salt := turn.salt, faults := [] }
    tasks := s.tasks.set turn.task (t.advance r next answer true) }

/-- A turn does nothing, or it lets the world answer, or a fault. -/
theorem step_cases (sv : Services) (s : Scene) (turn : Turn) :
    s.step sv turn = s ∨
      ∃ t r next, s.tasks[turn.task]? = some t ∧ t.rest = .call r next ∧
        (s.step sv turn = s.served sv turn t r next ∨
          ∃ fault answer, turn.fault = some fault ∧ fault.answer? r = some answer ∧
            s.step sv turn = s.struck turn t r next answer) := by
  cases htask : s.tasks[turn.task]? with
  | none => exact Or.inl (by simp only [step, htask])
  | some t =>
    cases hrest : t.rest with
    | done outcome => exact Or.inl (by simp only [step, htask, hrest])
    | call r next =>
      refine Or.inr ⟨t, r, next, rfl, hrest, ?_⟩
      simp only [step, htask, hrest, World.answer, World.facing]
      cases hfault : turn.fault with
      | none => exact Or.inl (by simp [served, World.facing, World.takeFault?, hfault])
      | some fault =>
        cases hanswer : fault.answer? r with
        | none =>
          exact Or.inl (by simp [served, World.facing, World.takeFault?, hfault, hanswer])
        | some answer =>
          refine Or.inr ⟨fault, answer, rfl, hanswer, ?_⟩
          simp [struck, World.takeFault?, hanswer]

theorem step_cases_of_no_fault (sv : Services) (s : Scene) {turn : Turn}
    (hfault : turn.fault = none) :
    s.step sv turn = s ∨
      ∃ t r next, s.tasks[turn.task]? = some t ∧ t.rest = .call r next ∧
        s.step sv turn = s.served sv turn t r next := by
  rcases s.step_cases sv turn with hidle | ⟨t, r, next, htask, hrest, hserved | hstruck⟩
  · exact Or.inl hidle
  · exact Or.inr ⟨t, r, next, htask, hrest, hserved⟩
  · obtain ⟨fault, answer, hstrikes, -, -⟩ := hstruck
    rw [hfault] at hstrikes
    cases hstrikes

/-- The answers that a request can get in a turn: that of the world, or that of a fault. -/
inductive Reply (sv : Services) (w : World) (turn : Turn) :
    (r : Request) → r.Answer → Bool → Prop where
  | served (r : Request) : Reply sv w turn r ((w.facing turn).serve sv r).1 false
  | struck {r : Request} {fault : Fault} {answer : r.Answer} (hfault : turn.fault = some fault)
      (hanswer : fault.answer? r = some answer) : Reply sv w turn r answer true

theorem reply_cases {sv : Services} {w : World} {turn : Turn} {r : Request} {answer : r.Answer}
    {injected : Bool} (h : Reply sv w turn r answer injected) :
    answer = ((w.facing turn).serve sv r).1 ∨
      ∃ fault, turn.fault = some fault ∧ fault.answer? r = some answer := by
  cases h with
  | served => exact Or.inl rfl
  | struck hfault hanswer => exact Or.inr ⟨_, hfault, hanswer⟩

/-- What every answer in a turn preserves of the task that gets it, the turn preserves of all. -/
theorem step_tasks {sv : Services} {s : Scene} {turn : Turn} {P : Task → Prop}
    (hs : ∀ t ∈ s.tasks, P t)
    (hadvance : ∀ t ∈ s.tasks, ∀ r next answer injected, t.rest = .call r next →
      Reply sv s.world turn r answer injected → P t → P (t.advance r next answer injected)) :
    ∀ t ∈ (s.step sv turn).tasks, P t := by
  have hset : ∀ t ∈ s.tasks, ∀ r next answer injected, t.rest = .call r next →
      Reply sv s.world turn r answer injected →
        ∀ x ∈ s.tasks.set turn.task (t.advance r next answer injected), P x :=
    fun t ht r next answer injected hrest hreply =>
      forall_mem_set hs (hadvance t ht r next answer injected hrest hreply (hs t ht))
  -- either way a new task stands in the place of the one whose turn it was
  rcases s.step_cases sv turn with hidle | ⟨t, r, next, htask, hrest, hserved | hstruck⟩
  · rw [hidle]
    exact hs
  · rw [hserved]
    exact hset t (List.mem_of_getElem? htask) r next _ _ hrest (Reply.served r)
  · obtain ⟨fault, answer, hfault, hanswer, hstep⟩ := hstruck
    rw [hstep]
    exact hset t (List.mem_of_getElem? htask) r next _ _ hrest (Reply.struck hfault hanswer)

/-- A turn lets the use case whose turn it is go on, if it has not returned, and no other one. -/
theorem step_task (sv : Services) (s : Scene) (turn : Turn) {i : Nat} {t : Task}
    (ht : s.tasks[i]? = some t) :
    (s.step sv turn).tasks[i]? = some t ∧ (i = turn.task → t.isOver = true) ∨
      i = turn.task ∧ ∃ r next answer injected, t.rest = .call r next ∧
        (s.step sv turn).tasks[i]? = some (t.advance r next answer injected) := by
  obtain ⟨hlt, -⟩ := List.getElem?_eq_some_iff.mp ht
  by_cases hi : i = turn.task
  · cases hrest : t.rest with
    | done outcome =>
      -- nothing is left to ask, so the turn is idle
      refine Or.inl ⟨?_, fun _ => ?_⟩
      · rw [hi] at ht
        simp only [step, ht, hrest, hi]
      · rw [Task.isOver, Task.outcome?, hrest]
        rfl
    | call r next =>
      refine Or.inr ⟨hi, r, next, ?_⟩
      rw [hi] at ht hlt
      simp only [step, ht, hrest, hi, List.getElem?_set_self hlt]
      exact ⟨_, _, trivial, rfl⟩
  · have hother : ∀ x, (s.tasks.set turn.task x)[i]? = some t := by
      intro x
      -- whoever's turn it is, this task keeps its place and its progress
      rw [List.getElem?_set_ne (Ne.symm hi), ht]
    refine Or.inl ⟨?_, fun h => absurd h hi⟩
    rcases s.step_cases sv turn with hidle | ⟨x, r, next, -, -, hserved | hstruck⟩
    · rw [hidle, ht]
    · rw [hserved]
      exact hother _
    · obtain ⟨fault, answer, -, -, hstep⟩ := hstruck
      rw [hstep]
      exact hother _

/-- A turn changes what is left of a use case, not which use case it is. -/
theorem step_useCases (sv : Services) (s : Scene) (turn : Turn) :
    (s.step sv turn).tasks.map Task.useCase = s.tasks.map Task.useCase := by
  have hset : ∀ t x, s.tasks[turn.task]? = some t → x.useCase = t.useCase →
      (s.tasks.set turn.task x).map Task.useCase = s.tasks.map Task.useCase := by
    intro t x htask hx
    obtain ⟨hlt, ht⟩ := List.getElem?_eq_some_iff.mp htask
    -- the use case that is put there is the one that was there
    rw [List.map_set, hx, ← ht, ← List.getElem_map Task.useCase, List.set_getElem_self]
    simpa using hlt
  rcases s.step_cases sv turn with hidle | ⟨t, r, next, htask, -, hserved | hstruck⟩
  · rw [hidle]
  · rw [hserved]
    exact hset t _ htask rfl
  · obtain ⟨fault, answer, -, -, hstep⟩ := hstruck
    rw [hstep]
    exact hset t _ htask rfl

theorem run_append (sv : Services) (s : Scene) (earlier later : List Turn) :
    s.run sv (earlier ++ later) = (s.run sv earlier).run sv later :=
  List.foldl_append

/-- What one turn preserves a whole schedule preserves. -/
theorem run_invariant {sv : Services} {s : Scene} {turns : List Turn} {I : Scene → Prop}
    (hstart : I s) (hstep : ∀ s, ∀ turn ∈ turns, I s → I (s.step sv turn)) :
    I (s.run sv turns) := by
  induction turns generalizing s with
  | nil => exact hstart
  | cons turn turns ih =>
    -- the invariant is asked of the turns that the schedule has, so the others drop out one by one
    refine ih (hstep s turn List.mem_cons_self hstart) ?_
    intro s later hlater hs
    exact hstep s later (List.mem_cons_of_mem turn hlater) hs

theorem run_useCases (sv : Services) (w : World) (calls : List UseCase) (turns : List Turn) :
    ((start w calls).run sv turns).tasks.map Task.useCase = calls := by
  refine run_invariant (I := fun s => s.tasks.map Task.useCase = calls) ?_ ?_
  · simp [start, Function.comp_def, Task.start]
  · intro s turn _ hs
    rw [step_useCases, hs]

end Scene

/-! ## A small world -/

theorem Currency.euro_listed :
    CurrencyInfo.mk "EUR" "ÅLAND ISLANDS" "Euro" "978" ∈ currencyTable := by decide +kernel

/-- Where there is no description there is none that is empty. -/
theorem Description.isEmpty_of_none :
    ∀ d : Description, none = some d → d.isEmpty = false := by simp

/-- A monthly plan without a trial. -/
def Plan.monthly : Plan where
  id := ⟨1⟩
  terms :=
    { name := ⟨"Basic", by decide +kernel⟩
      description := none
      amount := ⟨999, by decide⟩
      currency := ⟨⟨"EUR", "ÅLAND ISLANDS", "Euro", "978"⟩, Currency.euro_listed⟩
      trial := none
      interval := .month
      described := Description.isEmpty_of_none }
  createdAt := .epoch
  updatedAt := .epoch

/-- The terms of a monthly plan without a trial, as they are written down. -/
def PlanDraft.basic : PlanDraft where
  name := "Basic"
  description := none
  cents := 999
  currency := "EUR"
  trialDays := none
  interval := "Month"

/-- A world with one plan and nobody subscribed to it. -/
def World.kiosk : World :=
  { now := .epoch, plans := { entries := [(1, Plan.monthly)], lastId := 1 } }

/-- Services that agree to everything. -/
def Services.lenient : Services where
  hash := fun _ => .ok
  verify := fun _ _ => true
  issue := fun _ _ => .ok ""

/-- Turns without a fault while the clock stands still. -/
def Turn.inOrder (now : Instant) (tasks : List Nat) : List Turn :=
  tasks.map fun task => { task, now }

end RecurringBilling
