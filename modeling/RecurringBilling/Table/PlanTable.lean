import RecurringBilling.Table.PlanRow
import RecurringBilling.Table.Statement

/-!
# The plan table

Plans kept in a database table.  The table itself is given by what it answers to
each statement; the operations below say which numbers are checked before a
statement is run and how its answer becomes a plan or a failure.
-/

namespace RecurringBilling

/-- The answers of a plan table to the statements run on it. -/
structure PlanTable where
  insert : PlanRow → Except QueryError BigColumn
  overwrite : PlanRow → Except QueryError Nat
  erase : BigColumn → Except QueryError Nat
  select : BigColumn → Except QueryError (Option PlanRow)
  selectAll : Except QueryError (List PlanRow)

namespace PlanTable

/-- No plan has the identifier. -/
def notFound (id : PlanId) : Failure :=
  { code := .planNotFound, message := "plan not found: " ++ id.numeral }

/-- Stores a new plan and returns it with its identifier. -/
def create (t : PlanTable) (plan : Plan) : Except Failure Plan :=
  (Statement.insert t.insert (QueryError.toFailure "create plan") (PlanRow.ofPlan plan)).map
    fun id => plan.withId ⟨id⟩

/-- Replaces a stored plan. -/
def update (t : PlanTable) (plan : Plan) : Except Failure Unit :=
  Statement.overwrite t.overwrite (QueryError.toFailure "update plan") (notFound plan.id)
    (PlanRow.ofPlan plan)

/-- Removes a stored plan. -/
def delete (t : PlanTable) (id : PlanId) : Except Failure Unit :=
  Statement.remove t.erase "delete plan" (notFound id) id.value

/-- Looks a plan up. -/
def findById (t : PlanTable) (id : PlanId) : Except Failure (Option Plan) :=
  Statement.lookUp "id" t.select PlanRow.toPlan "find plan" id.value

/-- Every plan, in the order of the identifiers. -/
def findAll (t : PlanTable) : Except Failure (List Plan) :=
  Statement.list t.selectAll PlanRow.toPlan "list plans"

/-- The table behind a pool that has been closed. -/
def closed : PlanTable where
  insert _ := .error .closedPool
  overwrite _ := .error .closedPool
  erase _ := .error .closedPool
  select _ := .error .closedPool
  selectAll := .error .closedPool

end PlanTable

end RecurringBilling
