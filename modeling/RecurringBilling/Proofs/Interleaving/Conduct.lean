import RecurringBilling.Proofs.Interleaving.Scene

/-!
# Conduct

A conduct says what a program may ask, given what it was answered so far, and how it
may end.  What it was answered so far is summed up in a state; answers on which a
conduct relies are taken for granted and have to be justified by whoever runs the
program.  Programs that obey a conduct go on obeying it however their turns are
interleaved with those of others, because a conduct speaks of one program only.
-/

namespace RecurringBilling

/-- Rules for a program with results in `α`, over states in `σ`. -/
structure Conduct (σ α : Type) where
  after : σ → Exchange → σ
  allows : σ → Request → Prop
  ends : σ → α → Prop
  rely : Exchange → Prop := fun _ => True

namespace Program

variable {σ α : Type}

/-- The program keeps to the rules from a state on, whatever it is answered. -/
def Obeys (c : Conduct σ α) : Program α → σ → Prop
  | .done a, st => c.ends st a
  | .call r next, st =>
    -- any answer may come, but for those against which the conduct relies on the world
    c.allows st r ∧
      ∀ answer injected, c.rely { request := r, answer, injected } →
        Obeys c (next answer) (c.after st { request := r, answer, injected })

/-- A program that obeys one conduct obeys another one as well, if the states of the two stay in
step and the other never forbids what the first one allows. -/
theorem Obeys.inStep {τ : Type} {c : Conduct σ α} {d : Conduct τ α} {R : σ → τ → Prop}
    (hallows : ∀ st st' r, R st st' → c.allows st r → d.allows st' r)
    (hrely : ∀ e, d.rely e → c.rely e)
    (hafter : ∀ st st' e, R st st' → c.allows st e.request → R (c.after st e) (d.after st' e))
    (hends : ∀ st st' a, R st st' → c.ends st a → d.ends st' a) {p : Program α} {st : σ} {st' : τ}
    (h : p.Obeys c st) (hst : R st st') : p.Obeys d st' := by
  induction p generalizing st st' with
  | done a => exact hends st st' a hst h
  | call r next ih =>
    refine ⟨hallows st st' r hst h.1, fun answer injected hanswer => ?_⟩
    exact ih answer (h.2 answer injected (hrely _ hanswer)) (hafter st st' _ hst h.1)

end Program

namespace Task

variable {σ : Type} {c : (u : UseCase) → Conduct σ u.Outcome} {start : σ} {t : Task}

/-- The state that the log of a task leads to. -/
def stateBy (c : (u : UseCase) → Conduct σ u.Outcome) (start : σ) (t : Task) : σ :=
  t.log.foldl (c t.useCase).after start

/-- What is left of the task keeps to the rules. -/
def Obeys (c : (u : UseCase) → Conduct σ u.Outcome) (start : σ) (t : Task) : Prop :=
  t.rest.Obeys (c t.useCase) (t.stateBy c start)

theorem stateBy_advance (c : (u : UseCase) → Conduct σ u.Outcome) (start : σ) (r : Request)
    (next : r.Answer → Program t.useCase.Outcome)
    (answer : r.Answer) (injected : Bool) :
    (t.advance r next answer injected).stateBy c start =
      (c t.useCase).after (t.stateBy c start) { request := r, answer, injected } := by
  simp [stateBy, List.foldl_append]

theorem Obeys.allows {r : Request} {next : r.Answer → Program t.useCase.Outcome}
    (h : t.Obeys c start) (hrest : t.rest = .call r next) :
    (c t.useCase).allows (t.stateBy c start) r := by
  rw [Obeys, hrest] at h
  exact h.1

theorem Obeys.advance {r : Request} {next : r.Answer → Program t.useCase.Outcome}
    {answer : r.Answer} {injected : Bool} (h : t.Obeys c start)
    (hrest : t.rest = .call r next)
    (hrely : (c t.useCase).rely { request := r, answer, injected }) :
    (t.advance r next answer injected).Obeys c start := by
  rw [Obeys, hrest] at h
  rw [Obeys, stateBy_advance]
  exact h.2 answer injected hrely

theorem Obeys.ends {outcome : t.useCase.Outcome} (h : t.Obeys c start)
    (houtcome : t.outcome? = some outcome) :
    (c t.useCase).ends (t.stateBy c start) outcome := by
  rw [Obeys, rest_eq_done_of_outcome? houtcome] at h
  exact h

end Task

end RecurringBilling
