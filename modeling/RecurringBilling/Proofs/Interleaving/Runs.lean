import RecurringBilling.Proofs.Interleaving.Conduct

/-!
# Runs of programs

A program runs along a list of exchanges if each of them answers what the program asks next, and
the result comes after the last.  Nothing is assumed of the answers, so a statement about every run
is one about every state of every world, faulty or not.  What a use case has been through in a
scene is a run of its program.
-/

namespace RecurringBilling

namespace Program

variable {α : Type}

/-- The program asks and is answered as listed, and ends with a result. -/
inductive Runs : Program α → List Exchange → α → Prop where
  | done (a : α) : Runs (.done a) [] a
  | call {r : Request} {next : r.Answer → Program α} {log : List Exchange} {a : α}
      (answer : r.Answer) (injected : Bool) (rest : Runs (next answer) log a) :
      Runs (.call r next) ({ request := r, answer, injected } :: log) a

/-- Run without interruption in a world, the program runs along some exchanges. -/
theorem exists_runs (sv : Services) (p : Program α) (w : World) :
    ∃ log, p.Runs log (p.run sv w).1 := by
  induction p generalizing w with
  | done a => exact ⟨[], .done a⟩
  | call r next ih =>
    obtain ⟨log, hlog⟩ := ih (w.answer sv r).1 (w.answer sv r).2
    exact ⟨_, .call _ (World.takeFault? r w.faults).isSome hlog⟩

/-- A program that obeys a conduct keeps to it in every run that gives what the conduct relies on:
at each place of the run it asks what is allowed there, and it ends as it may. -/
theorem Obeys.of_runs {σ : Type} {c : Conduct σ α} {p : Program α} {st : σ} (h : p.Obeys c st)
    {log : List Exchange} {a : α} (hruns : p.Runs log a) (hrely : ∀ e ∈ log, c.rely e) :
    (∀ earlier e later, log = earlier ++ e :: later →
      c.allows (earlier.foldl c.after st) e.request) ∧ c.ends (log.foldl c.after st) a := by
  induction hruns generalizing st with
  | done a => exact ⟨fun earlier e later hlog => by simp at hlog, h⟩
  | call answer injected rest ih =>
    obtain ⟨hallows, hnext⟩ := h
    obtain ⟨hfirst, hlater⟩ := List.forall_mem_cons.mp hrely
    obtain ⟨hplaces, hends⟩ := ih (hnext answer injected hfirst) hlater
    refine ⟨fun earlier e later hlog => ?_, hends⟩
    cases earlier with
    | nil =>
      obtain ⟨rfl, -⟩ := List.cons.inj hlog
      exact hallows
    | cons first earlier =>
      obtain ⟨rfl, hrest⟩ := List.cons.inj hlog
      exact hplaces earlier e later hrest

end Program

namespace Task

/-- However the task goes on, it will have run the program of its use case. -/
def OnTrack (t : Task) : Prop :=
  ∀ later outcome, t.rest.Runs later outcome → t.useCase.program.Runs (t.log ++ later) outcome

theorem onTrack_start (u : UseCase) : (start u).OnTrack := fun _ _ h => h

theorem OnTrack.advance {t : Task} (h : t.OnTrack) {r : Request}
    {next : r.Answer → Program t.useCase.Outcome} (hrest : t.rest = .call r next)
    (answer : r.Answer) (injected : Bool) : (t.advance r next answer injected).OnTrack := by
  intro later outcome hlater
  rw [advance_log, List.append_assoc, List.singleton_append]
  refine h _ outcome ?_
  rw [hrest]
  exact .call answer injected hlater

theorem OnTrack.runs {t : Task} (h : t.OnTrack) {outcome : t.useCase.Outcome}
    (houtcome : t.outcome? = some outcome) : t.useCase.program.Runs t.log outcome := by
  have hdone := h [] outcome
  rw [rest_eq_done_of_outcome? houtcome, List.append_nil] at hdone
  exact hdone (.done outcome)

/-- The task is one of the use case, and has returned the outcome. -/
def Returned (t : Task) (u : UseCase) (outcome : u.Outcome) : Prop :=
  ∃ log, t = { useCase := u, log, rest := .done outcome }

/-- What the task has been through is the beginning of a run, and the rest of the run is left. -/
theorem OnTrack.exists_runs {t : Task} (h : t.OnTrack) :
    ∃ later outcome, t.useCase.program.Runs (t.log ++ later) outcome ∧
      t.rest.Runs later outcome := by
  -- any world will do
  obtain ⟨later, hlater⟩ := t.rest.exists_runs Services.lenient World.kiosk
  exact ⟨later, _, h later _ hlater, hlater⟩

end Task

namespace Scene

/-- Whatever the world, its faults and the other use cases do, what a use case has been asked and
answered when it returns is a run of its program. -/
theorem onTrack_run (sv : Services) (w : World) (calls : List UseCase) (turns : List Turn) :
    ∀ t ∈ ((start w calls).run sv turns).tasks, t.OnTrack := by
  refine run_invariant (I := fun s => ∀ t ∈ s.tasks, t.OnTrack)
    (forall_mem_start w fun u _ => Task.onTrack_start u) fun s turn _ hs => ?_
  exact step_tasks hs fun _ _ _ _ answer injected hrest _ h => h.advance hrest answer injected

/-- A use case stays in its place, and its log only grows. -/
theorem log_run (sv : Services) {s : Scene} {i : Nat} {t : Task} (ht : s.tasks[i]? = some t)
    (turns : List Turn) :
    ∃ t', (s.run sv turns).tasks[i]? = some t' ∧ t'.useCase = t.useCase ∧ t.log <+: t'.log := by
  refine run_invariant
    (I := fun s => ∃ t', s.tasks[i]? = some t' ∧ t'.useCase = t.useCase ∧ t.log <+: t'.log)
    ⟨t, ht, rfl, List.prefix_rfl⟩ ?_
  rintro s turn - ⟨t', ht', hu, hlog⟩
  rcases s.step_task sv turn ht' with ⟨hsame, -⟩ | ⟨-, r, next, answer, injected, -, hstep⟩
  · exact ⟨t', hsame, hu, hlog⟩
  · exact ⟨_, hstep, hu, hlog.trans (List.prefix_append _ _)⟩

end Scene

end RecurringBilling
