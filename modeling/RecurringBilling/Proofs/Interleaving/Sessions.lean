import RecurringBilling.Proofs.Interleaving.Visits

/-!
# Sessions

In a session use cases are carried out side by side, in any turns and with any faults.  A world
that use cases can lead to is one after a session.  A use case that is carried out
alone and without faults is a session too, whose turns all go to it.
-/

namespace RecurringBilling

open RecurringBilling.Calendar

/-- Use cases that are carried out side by side, and the turns that they get. -/
structure Session where
  useCases : List UseCase
  turns : List Turn

/-- A turn of the only task there is. -/
def Turn.alone (now : Instant) (salt : List UInt8 := []) : Turn := { task := 0, now, salt }

namespace World

/-- The world after a session. -/
def afterSession (sv : Services) (w : World) (x : Session) : World :=
  ((Scene.start w x.useCases).run sv x.turns).world

/-- Without turns nothing happens. -/
theorem afterSession_idle (sv : Services) (w : World) (calls : List UseCase) :
    w.afterSession sv ⟨calls, []⟩ = w := rfl

/-- The outcome of a use case that is carried out alone and without faults at one reading of the
clock, with one salt, and the world after it. -/
def carryOut (sv : Services) (w : World) (now : Instant) (u : UseCase)
    (salt : List UInt8 := []) : u.Outcome × World :=
  u.program.run sv (w.facing (.alone now salt))

/-! ## What no request changes -/

theorem serve_now (sv : Services) (w : World) (r : Request) : (w.serve sv r).2.now = w.now := by
  cases r with
  | createSubscription | createAccount | updateSubscription | updateAccount | charge | refund =>
    exact written_congr World.now fun _ => rfl
  | _ => rfl

theorem serve_salt (sv : Services) (w : World) (r : Request) : (w.serve sv r).2.salt = w.salt := by
  cases r with
  | createSubscription | createAccount | updateSubscription | updateAccount | charge | refund =>
    exact written_congr World.salt fun _ => rfl
  | _ => rfl

theorem serve_faults (sv : Services) (w : World) (r : Request) :
    (w.serve sv r).2.faults = w.faults := by
  cases r with
  | createSubscription | createAccount | updateSubscription | updateAccount | charge | refund =>
    exact written_congr World.faults fun _ => rfl
  | _ => rfl

/-- In a world without faults every request is answered by the world. -/
theorem answer_of_no_faults (sv : Services) {w : World} (h : w.faults = []) (r : Request) :
    w.answer sv r = w.serve sv r := by
  rw [answer, h]
  rfl

@[simp]
theorem facing_faults (w : World) (now : Instant) (salt : List UInt8) :
    (w.facing (.alone now salt)).faults = [] := rfl

/-- Without a request there is nothing that the turn before would have changed. -/
theorem facing_of_eq {w : World} {now : Instant} {salt : List UInt8} (hnow : w.now = now)
    (hsalt : w.salt = salt) (hfaults : w.faults = []) : w.facing (.alone now salt) = w := by
  cases w
  cases hnow
  cases hsalt
  cases hfaults
  rfl

end World

/-- In a world without faults a program goes on with what the world answers. -/
theorem Program.run_call_of_serve (sv : Services) {α : Type} {w w' : World}
    (hfaults : w.faults = []) {r : Request} {answer : r.Answer}
    (hserve : w.serve sv r = (answer, w')) (next : r.Answer → Program α) :
    (call r next).run sv w = (next answer).run sv w' := by
  rw [run, World.answer_of_no_faults sv hfaults, hserve]

namespace Scene

/-- Turns without faults carry the only task to the end of its program. -/
theorem exists_run_of_program (sv : Services) (now : Instant) (salt : List UInt8) {u : UseCase}
    (p : Program u.Outcome) (w : World) (log : List Exchange) :
    ∃ n log', let s := (Scene.mk w [⟨u, log, p⟩]).run sv (List.replicate n (.alone now salt))
      s.tasks = [⟨u, log', .done (p.run sv (w.facing (.alone now salt))).1⟩] ∧
        s.world.facing (.alone now salt) = (p.run sv (w.facing (.alone now salt))).2 := by
  induction p generalizing w log with
  | done a => exact ⟨0, log, rfl, rfl⟩
  | call r next ih =>
    have hfaults : (w.facing (.alone now salt)).faults = [] := rfl
    have hnow : ((w.facing (.alone now salt)).answer sv r).2.facing (.alone now salt) =
        ((w.facing (.alone now salt)).answer sv r).2 := by
      rw [World.answer_of_no_faults sv hfaults]
      exact World.facing_of_eq (World.serve_now sv _ r) (World.serve_salt sv _ r)
        (World.serve_faults sv _ r)
    obtain ⟨n, log', htasks, hworld⟩ := ih ((w.facing (.alone now salt)).answer sv r).1
      ((w.facing (.alone now salt)).answer sv r).2
      (log ++ [⟨r, ((w.facing (.alone now salt)).answer sv r).1, false⟩])
    rw [hnow] at htasks hworld
    exact ⟨n + 1, log', htasks, hworld⟩

end Scene

/-- A use case that is carried out alone is carried out in a session, whose turns show the same
clock, draw the same salt and bring no faults. -/
theorem World.exists_session_of_carryOut (sv : Services) (w : World) (now : Instant)
    (u : UseCase) (salt : List UInt8) :
    ∃ x : Session, x.useCases = [u] ∧ (w.afterSession sv x).facing (.alone now salt) =
        (w.carryOut sv now u salt).2 := by
  obtain ⟨n, -, -, hworld⟩ := Scene.exists_run_of_program sv now salt u.program w []
  exact ⟨⟨[u], List.replicate n (.alone now salt)⟩, rfl, hworld⟩

end RecurringBilling
