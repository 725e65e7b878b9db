import RecurringBilling.Proofs.Interleaving.Scripts

/-!
# Programs that only ask

A request that writes nothing leaves the world as it is, and if a fault answers it, that fault is
used up.  A program of such requests therefore gets all its answers from the world it began in, or
from a fault.
-/

namespace RecurringBilling

/-- The request writes nothing. -/
def Request.isInquiry : Request → Bool
  | .createPlan _ | .createSubscription _ | .updateSubscription _ | .createAccount _
  | .updateAccount _ | .charge _ _ | .refund _ => false
  | _ => true

namespace World

variable (sv : Services) (w : World) {r : Request}

theorem serve_of_isInquiry (hr : r.isInquiry = true) : (w.serve sv r).2 = w := by
  cases r with
  | createPlan | createSubscription | updateSubscription | createAccount | updateAccount
  | charge | refund => cases hr
  | _ => rfl

/-- What the world answers does not depend on the faults that wait. -/
theorem serve_withFaults (faults : List Fault) (hr : r.isInquiry = true) :
    (World.serve sv { w with faults } r).1 = (w.serve sv r).1 := by
  cases r with
  | createPlan | createSubscription | updateSubscription | createAccount | updateAccount
  | charge | refund => cases hr
  | _ => rfl

theorem exists_fault_of_takeFault? {faults others : List Fault} {answer : r.Answer}
    (h : takeFault? r faults = some (answer, others)) :
    ∃ fault, Fault.answer? fault r = some answer := by
  induction faults generalizing others with
  | nil => cases h
  | cons fault rest ih =>
    rw [takeFault?] at h
    split at h
    · next a hanswer =>
      cases h
      exact ⟨fault, hanswer⟩
    · obtain ⟨⟨a, left⟩, hrest, heq⟩ := Option.map_eq_some_iff.mp h
      cases heq
      exact ih hrest

/-- The exchange is one with the world, or with a fault. -/
def MayAnswer (e : Exchange) : Prop :=
  e.answer = (w.serve sv e.request).1 ∨ ∃ fault, Fault.answer? fault e.request = some e.answer

theorem mayAnswer_answer (r : Request) (injected : Bool) :
    w.MayAnswer sv { request := r, answer := (w.answer sv r).1, injected } := by
  unfold World.answer
  split
  · next htaken => exact Or.inr (exists_fault_of_takeFault? htaken)
  · exact Or.inl rfl

theorem answer_of_isInquiry (hr : r.isInquiry = true) :
    ∃ faults, (w.answer sv r).2 = { w with faults } := by
  unfold World.answer
  split
  · exact ⟨_, rfl⟩
  · exact ⟨w.faults, w.serve_of_isInquiry sv hr⟩

end World

namespace Program

variable {α : Type}

/-- The program writes nothing, whatever it is answered. -/
def Inquires : Program α → Prop
  | .done _ => True
  | .call r next => r.isInquiry = true ∧ ∀ answer, Inquires (next answer)

theorem Follows.inquires {asks : List Exchange → Request → Prop} {ends : List Exchange → α → Prop}
    (hasks : ∀ log r, asks log r → r.isInquiry = true) {p : Program α} {log : List Exchange}
    (h : p.Follows asks ends log) : p.Inquires := by
  induction p generalizing log with
  | done a => exact trivial
  | call r next ih =>
    obtain ⟨hplace, -, hnext⟩ := h
    exact ⟨hasks log r hplace, fun answer => ih answer (hnext answer false)⟩

/-- A program that only asks leaves the world as it was, but for the faults that it has used up, and
gets each of its answers from that world or from a fault. -/
theorem Inquires.exists_run (sv : Services) {p : Program α} (h : p.Inquires) (w : World) :
    ∃ log faults, p.Runs log (p.run sv w).1 ∧ (p.run sv w).2 = { w with faults } ∧
      ∀ e ∈ log, e.request.isInquiry = true ∧ w.MayAnswer sv e := by
  induction p generalizing w with
  | done a => exact ⟨[], w.faults, .done a, rfl, fun e he => absurd he List.not_mem_nil⟩
  | call r next ih =>
    obtain ⟨hr, hnext⟩ := h
    obtain ⟨faults, hafter⟩ := w.answer_of_isInquiry sv hr
    obtain ⟨log, others, hruns, hworld, hlog⟩ :=
      ih (w.answer sv r).1 (hnext _) (w.answer sv r).2
    refine ⟨_, others, .call _ false hruns, ?_, ?_⟩
    · rw [Program.run, hworld, hafter]
    · intro e he
      rcases List.mem_cons.mp he with rfl | hlater
      · exact ⟨hr, w.mayAnswer_answer sv r false⟩
      · obtain ⟨hinquiry, hanswers⟩ := hlog e hlater
        refine ⟨hinquiry, ?_⟩
        rw [hafter] at hanswers
        -- the faults that are gone by then do not matter to what the world answers
        rcases hanswers with hserved | hfault
        · exact Or.inl (hserved.trans (w.serve_withFaults sv faults hinquiry))
        · exact Or.inr hfault

end Program

end RecurringBilling
