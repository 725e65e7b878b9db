import RecurringBilling.Program.Request

/-!
# Programs

A program is either done or asks one request and goes on with the answer.  The
requests are the only steps at which programs that run at the same time can
interleave.
-/

namespace RecurringBilling

/-- A computation that asks requests and ends with a result. -/
inductive Program (α : Type) where
  | done (a : α)
  | call (r : Request) (next : r.Answer → Program α)

/-- Asks one request. -/
def Program.ask (r : Request) : Program r.Answer := .call r .done

end RecurringBilling
