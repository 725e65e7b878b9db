import RecurringBilling.Proofs.Interleaving.Scripts

/-!
# Progress

A program whose questions are bounded is done after as many turns, whatever it is
answered and whatever happens between its turns.  How many questions there are is read off the
places of its script.
-/

namespace RecurringBilling

namespace Program

variable {α : Type}

/-- The program asks a number of requests at most, whatever it is answered. -/
def AsksAtMost : Nat → Program α → Prop
  | _, .done _ => True
  | 0, .call _ _ => False
  | n + 1, .call _ next => ∀ answer, AsksAtMost n (next answer)

theorem asksAtMost_done (n : Nat) (a : α) : AsksAtMost n (.done a) := by
  cases n <;> exact trivial

theorem AsksAtMost.mono {m n : Nat} {p : Program α} (h : p.AsksAtMost m) (hmn : m ≤ n) :
    p.AsksAtMost n := by
  induction p generalizing m n with
  | done a => exact asksAtMost_done n a
  | call r next ih =>
    cases m with
    | zero => exact absurd h id
    | succ m =>
      cases n with
      | zero => omega
      | succ n => exact fun answer => ih answer (h answer) (by omega)

/-- A program that follows a script has asked as many requests as the log is long. -/
theorem Follows.asksAtMost {asks : List Exchange → Request → Prop}
    {ends : List Exchange → α → Prop} {n : Nat} (hn : ∀ log r, asks log r → log.length < n)
    {p : Program α} {log : List Exchange} (h : p.Follows asks ends log) :
    p.AsksAtMost (n - log.length) := by
  induction p generalizing log with
  | done a => exact asksAtMost_done _ a
  | call r next ih =>
    obtain ⟨hplace, -, hnext⟩ := h
    obtain ⟨left, hleft⟩ := Nat.exists_eq_succ_of_ne_zero (Nat.sub_ne_zero_of_lt (hn log r hplace))
    rw [hleft]
    intro answer
    have hlater := ih answer (hnext answer false)
    rwa [List.length_append, List.length_singleton, Nat.sub_succ, hleft] at hlater

end Program

section Subscribe

variable {user : UserId} {planId : PlanId} {log : List Exchange} {s : Subscription}

theorem Subscribe.Drafted.length_eq {p : Plan} (h : Drafted user planId log s p) :
    log.length = 4 := by
  cases h
  rfl

theorem Subscribe.Settled.length_le {receipt : Option Receipt}
    (h : Settled user planId log s receipt) : log.length ≤ 5 := by
  cases h with
  | trial h _ => rw [h.length_eq]; decide
  | charged h _ _ _ => rw [List.length_append, h.length_eq]; exact Nat.le_refl 5

/-- Subscribing takes seven requests at most: the plan, the look-up, two readings of the clock, the
charge, the write and a refund. -/
theorem asksAtMost_subscribe (user : UserId) (planId : PlanId) :
    (subscribe user planId).AsksAtMost 7 := by
  refine (Subscribe.follows user planId).asksAtMost (n := 7) fun log r h => ?_
  cases h with
  | charge h _ =>
    rw [h.length_eq]
    decide
  | store h =>
    have hlength := h.length_le
    omega
  | refund h f i =>
    have hlength := h.length_le
    rw [List.length_append, List.length_singleton]
    omega
  | _ => simp

end Subscribe

/-- Registering takes four requests at most: the look-up, the hash, the clock and the write. -/
theorem asksAtMost_register (name email password : String) :
    (register name email password).AsksAtMost 4 := by
  refine (Register.follows name email password).asksAtMost (n := 4) fun log r h => ?_
  cases h with
  | store h _ =>
    cases h
    simp
  | _ => simp

namespace Scene

/-- Each turn of a use case leaves it one request less to ask. -/
theorem asksAtMost_step (sv : Services) {s : Scene} (turn : Turn) {i n : Nat} {t : Task}
    (ht : s.tasks[i]? = some t) (hn : t.rest.AsksAtMost n) :
    ∃ t', (s.step sv turn).tasks[i]? = some t' ∧ t'.useCase = t.useCase ∧
      t'.rest.AsksAtMost (n - if turn.task = i then 1 else 0) := by
  rcases s.step_task sv turn ht with ⟨hsame, hover⟩ | ⟨hi, r, next, answer, injected, hrest, hstep⟩
  · refine ⟨t, hsame, rfl, ?_⟩
    by_cases hi : turn.task = i
    · obtain ⟨outcome, houtcome⟩ := Option.isSome_iff_exists.mp (hover hi.symm)
      -- a turn of a use case that has returned is lost, but that one asks nothing any more
      rw [Task.rest_eq_done_of_outcome? houtcome]
      exact Program.asksAtMost_done _ outcome
    · rw [if_neg hi]
      exact hn
  · refine ⟨_, hstep, rfl, ?_⟩
    rw [if_pos hi.symm]
    rw [hrest] at hn
    cases n with
    | zero => exact absurd hn id
    | succ n => exact hn answer

theorem asksAtMost_run (sv : Services) {s : Scene} (turns : List Turn) {i n : Nat} {t : Task}
    (ht : s.tasks[i]? = some t) (hn : t.rest.AsksAtMost n) :
    ∃ t', (s.run sv turns).tasks[i]? = some t' ∧ t'.useCase = t.useCase ∧
      t'.rest.AsksAtMost (n - turns.countP fun turn => decide (turn.task = i)) := by
  induction turns generalizing s n t with
  | nil => exact ⟨t, ht, rfl, hn⟩
  | cons turn turns ih =>
    obtain ⟨t₁, ht₁, hu₁, hn₁⟩ := asksAtMost_step sv turn ht hn
    obtain ⟨t₂, ht₂, hu₂, hn₂⟩ := ih ht₁ hn₁
    refine ⟨t₂, ht₂, hu₂.trans hu₁, hn₂.mono ?_⟩
    rw [List.countP_cons]
    -- a turn of another task does not count, and takes nothing away
    by_cases hi : turn.task = i
    · simp only [hi, decide_true, if_true]
      omega
    · simp only [hi, decide_false, Bool.false_eq_true, if_false]
      omega

/-- A use case that has had a turn for each request it may ask has returned. -/
theorem isOver_of_turns (sv : Services) (w : World) {calls : List UseCase} (turns : List Turn)
    {i n : Nat} {u : UseCase} (hu : calls[i]? = some u) (hn : u.program.AsksAtMost n)
    (hturns : n ≤ turns.countP fun turn => decide (turn.task = i)) :
    ∃ t, ((start w calls).run sv turns).tasks[i]? = some t ∧ t.useCase = u ∧ t.isOver = true := by
  have hstart : (start w calls).tasks[i]? = some (Task.start u) := by
    simp [start, hu]
  obtain ⟨t, ht, hut, hasks⟩ := asksAtMost_run sv turns hstart hn
  refine ⟨t, ht, hut, ?_⟩
  -- no request is left
  rw [Nat.sub_eq_zero_of_le hturns] at hasks
  cases hrest : t.rest with
  | done outcome =>
    rw [Task.isOver, Task.outcome?, hrest]
    rfl
  | call r next =>
    rw [hrest] at hasks
    exact absurd hasks id

end Scene

end RecurringBilling
