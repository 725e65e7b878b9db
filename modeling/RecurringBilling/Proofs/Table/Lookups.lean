import RecurringBilling.Proofs.Table.PlanRows
import RecurringBilling.Proofs.Table.SubscriptionRows
import RecurringBilling.Store.Plans
import RecurringBilling.Store.Subscriptions
import RecurringBilling.Table.PlanTable
import RecurringBilling.Table.SubscriptionTable

/-!
# Looking up and removing by number

Whoever looks up a number is owed what stands under it, or to learn that nothing does; whoever
removes what stands under a number is owed that it goes, or the failure that nothing is there.
Apart from this only the infrastructure may fail, and a row that cannot be read.  Stores pay this
for every number.  Tables pay it exactly for the numbers that fit in their column: no row can stand
under a larger one, yet it is refused as a value that breaks a rule, before any statement is run.
-/

namespace RecurringBilling

open RecurringBilling.Text RecurringBilling.Statement

/-! ## What is owed -/

/-- Rows that stand under numbers, and what each of them is read as. -/
structure Inventory (ρ α : Type) where
  rows : List ρ
  number : ρ → Int
  read : ρ → Except Failure α

namespace Inventory

variable {ρ α : Type} (held : Inventory ρ α)

/-- No row stands under the number. -/
def Lacks (n : Nat) : Prop := ∀ row ∈ held.rows, held.number row ≠ n

/-- The answers that are owed to whoever looks up a number. -/
inductive Finds (n : Nat) : Except Failure (Option α) → Prop where
  | missing (h : held.Lacks n) : Finds n (.ok none)
  | found {row : ρ} {a : α} (hrow : row ∈ held.rows) (hnumber : held.number row = n)
      (hread : held.read row = .ok a) : Finds n (.ok (some a))
  | corrupt {row : ρ} {f : Failure} (hrow : row ∈ held.rows) (hnumber : held.number row = n)
      (hread : held.read row = .error f) : Finds n (.error f)
  | unavailable {f : Failure} (h : f.kind = .infrastructure) : Finds n (.error f)

/-- The answers that are owed to whoever removes what stands under a number. -/
inductive Removes (notFound : Failure) (n : Nat) : Except Failure Unit → Prop where
  | missing (h : held.Lacks n) : Removes notFound n (.error notFound)
  | removed {row : ρ} (hrow : row ∈ held.rows) (hnumber : held.number row = n) :
      Removes notFound n (.ok ())
  | unavailable {f : Failure} (h : f.kind = .infrastructure) : Removes notFound n (.error f)

variable {held} {notFound : Failure} {n : Nat}

/-- Where nothing stands, only the infrastructure may fail. -/
theorem not_finds_error {f : Failure} (hlacks : held.Lacks n) (hkind : f.kind ≠ .infrastructure) :
    ¬held.Finds n (.error f) := by
  intro h
  cases h with
  | corrupt hrow hnumber => exact hlacks _ hrow hnumber
  | unavailable h => exact hkind h

theorem not_removes_error {f : Failure} (hnotFound : f ≠ notFound)
    (hkind : f.kind ≠ .infrastructure) : ¬held.Removes notFound n (.error f) := by
  intro h
  cases h with
  | missing => exact hnotFound rfl
  | unavailable h => exact hkind h

end Inventory

/-! ## Stores -/

namespace Store

variable {α : Type} (s : Store α)

/-- The values of a store under their numbers.  All of them can be read. -/
def inventory : Inventory (Nat × α) α where
  rows := s.entries
  number := fun e => e.1
  read := fun e => .ok e.2

theorem lacks_of_find?_eq_none {n : Nat} (h : s.find? n = none) : s.inventory.Lacks n := by
  intro e he hn
  have hkey := List.lookup_eq_none_iff.mp h e he
  have hsame : n = e.1 := Int.ofNat_inj.mp hn.symm
  simp [hsame] at hkey

theorem mem_of_find?_eq_some {n : Nat} {a : α} (h : s.find? n = some a) : (n, a) ∈ s.entries := by
  obtain ⟨before, behind, hentries, -⟩ := List.lookup_eq_some_iff.mp h
  rw [hentries]
  exact List.mem_append_right before List.mem_cons_self

/-- A store finds what stands under a number. -/
theorem finds (n : Nat) : s.inventory.Finds n (.ok (s.find? n)) := by
  cases h : s.find? n with
  | none => exact .missing (s.lacks_of_find?_eq_none h)
  | some a => exact .found (s.mem_of_find?_eq_some h) rfl rfl

/-- A store removes what it contains. -/
theorem removes (notFound : Failure) (n : Nat) :
    s.inventory.Removes notFound n (if s.contains n then .ok () else .error notFound) := by
  cases h : s.find? n with
  | none =>
    rw [contains, h]
    exact .missing (s.lacks_of_find?_eq_none h)
  | some a =>
    rw [contains, h]
    exact .removed (s.mem_of_find?_eq_some h) rfl

end Store

/-! ## Tables -/

/-- A statement has been answered as it should be, or not at all. -/
def AnsweredBy {β : Type} (answer : Except QueryError β) (b : β) : Prop :=
  answer = .ok b ∨ ∃ e, answer = .error e

/-- A failure of the database is one of the infrastructure. -/
theorem QueryError.kind_toFailure (attempt : String) (e : QueryError) :
    (e.toFailure attempt).kind = .infrastructure := rfl

namespace BigColumn

variable {ρ α : Type} {n : Nat}

/-- Rows under the numbers in a column. -/
def inventory (column : ρ → BigColumn) (read : ρ → Except Failure α) (rows : List ρ) :
    Inventory ρ α where
  rows := rows
  number := fun row => (column row).value
  read := read

variable {column : ρ → BigColumn} {read : ρ → Except Failure α} {rows : List ρ}

/-- The rows with a number are those with the column that holds it. -/
theorem number_inventory_iff {c : BigColumn} (hc : c.value = n) {row : ρ} :
    (inventory column read rows).number row = n ↔ column row = c := by
  rw [← Signed.value_inj, hc]
  exact Iff.rfl

/-- No row has a number that does not fit in the column. -/
theorem lacks_of_le (h : 2 ^ 63 ≤ n) : (inventory column read rows).Lacks n := by
  intro row _ hnumber
  have hupper := (column row).upper
  rw [show (column row).value = n from hnumber] at hupper
  omega

/-! ### Numbers that fit in the column -/

theorem finds_lookUp {select : BigColumn → Except QueryError (Option ρ)}
    (hselect : ∀ c, AnsweredBy (select c) (rows.find? fun row => column row = c))
    (attempt : String) (hn : n < 2 ^ 63) :
    (inventory column read rows).Finds n (lookUp "id" select read attempt n) := by
  obtain ⟨c, hc⟩ := exists_value hn
  rw [lookUp, ofNat_eq_ok_iff.mpr hc]
  dsimp only
  rcases hselect c with hanswer | ⟨e, hanswer⟩
  · rw [hanswer]
    cases hfind : rows.find? fun row => column row = c with
    | none =>
      refine .missing fun row hrow hnumber => ?_
      have hother : ¬column row = c := by simpa using List.find?_eq_none.mp hfind row hrow
      exact hother ((number_inventory_iff hc).mp hnumber)
    | some row =>
      have hrow : row ∈ rows := List.mem_of_find?_eq_some hfind
      have hcolumn : column row = c := by simpa using List.find?_some hfind
      have hnumber : (inventory column read rows).number row = n :=
        (number_inventory_iff hc).mpr hcolumn
      dsimp only
      cases hread : read row with
      | ok a => exact .found hrow hnumber hread
      | error f => exact .corrupt hrow hnumber hread
  · rw [hanswer]
    exact .unavailable (e.kind_toFailure attempt)

theorem removes_remove {erase : BigColumn → Except QueryError Nat}
    (herase : ∀ c, AnsweredBy (erase c) (rows.countP fun row => column row = c))
    (attempt : String) (notFound : Failure) (hn : n < 2 ^ 63) :
    (inventory column read rows).Removes notFound n (remove erase attempt notFound n) := by
  obtain ⟨c, hc⟩ := exists_value hn
  rw [remove, ofNat_eq_ok_iff.mpr hc]
  dsimp only
  rcases herase c with hanswer | ⟨e, hanswer⟩
  · rw [hanswer]
    cases hcount : rows.countP fun row => column row = c with
    | zero =>
      refine .missing fun row hrow hnumber => ?_
      have hother : ¬column row = c := by simpa using List.countP_eq_zero.mp hcount row hrow
      exact hother ((number_inventory_iff hc).mp hnumber)
    | succ k =>
      have hpos : 0 < rows.countP fun row => column row = c := by omega
      obtain ⟨row, hrow, hmatch⟩ := List.countP_pos_iff.mp hpos
      have hcolumn : column row = c := by simpa using hmatch
      exact .removed hrow ((number_inventory_iff hc).mpr hcolumn)
  · rw [hanswer]
    exact .unavailable (e.kind_toFailure attempt)

/-! ### Numbers that do not -/

/-- Why a number does not fit in the column of identifiers. -/
def outOfRange (n : Nat) : Failure :=
  .invalidField "id" ("id" ++ " out of range: " ++ Decimal.numeral n)

theorem kind_outOfRange (n : Nat) : (outOfRange n).kind ≠ .infrastructure := by
  rw [show (outOfRange n).kind = .validation from rfl]
  decide

theorem lookUp_of_le (select : BigColumn → Except QueryError (Option ρ))
    (read : ρ → Except Failure α) (attempt : String) (h : 2 ^ 63 ≤ n) :
    lookUp "id" select read attempt n = .error (outOfRange n) := by
  rw [lookUp, ofNat_of_le "id" h]
  rfl

theorem remove_of_le (erase : BigColumn → Except QueryError Nat) (attempt : String)
    (notFound : Failure) (h : 2 ^ 63 ≤ n) :
    remove erase attempt notFound n = .error (outOfRange n) := by
  rw [remove, ofNat_of_le "id" h]
  rfl

/-! ### Both -/

/-- A look-up in a table pays what is owed exactly for the numbers that fit. -/
theorem finds_lookUp_iff {select : BigColumn → Except QueryError (Option ρ)}
    (hselect : ∀ c, AnsweredBy (select c) (rows.find? fun row => column row = c))
    (attempt : String) :
    (inventory column read rows).Finds n (lookUp "id" select read attempt n) ↔ n < 2 ^ 63 := by
  constructor
  · intro h
    by_contra hlarge
    rw [lookUp_of_le select read attempt (Nat.le_of_not_lt hlarge)] at h
    exact Inventory.not_finds_error (lacks_of_le (Nat.le_of_not_lt hlarge))
      (kind_outOfRange n) h
  · exact finds_lookUp hselect attempt

/-- A removal from a table pays what is owed exactly for the numbers that fit, if what it reports of
numbers without a row is not that a value breaks a rule. -/
theorem removes_remove_iff {erase : BigColumn → Except QueryError Nat}
    (herase : ∀ c, AnsweredBy (erase c) (rows.countP fun row => column row = c))
    (attempt : String) {notFound : Failure} (hcode : notFound.code ≠ .validationFailed) :
    (inventory column read rows).Removes notFound n (remove erase attempt notFound n) ↔
      n < 2 ^ 63 := by
  constructor
  · intro h
    by_contra hlarge
    rw [remove_of_le erase attempt notFound (Nat.le_of_not_lt hlarge)] at h
    have hother : outOfRange n ≠ notFound := fun hsame => hcode (hsame ▸ rfl)
    exact Inventory.not_removes_error hother (kind_outOfRange n) h
  · exact removes_remove herase attempt notFound

end BigColumn

namespace PlanTable

/-- The statements are answered from the rows, or not at all. -/
structure Holds (t : PlanTable) (rows : List PlanRow) : Prop where
  select : ∀ c, AnsweredBy (t.select c) (rows.find? fun row => row.id = c)
  erase : ∀ c, AnsweredBy (t.erase c) (rows.countP fun row => row.id = c)

end PlanTable

/-- Plans in the rows of a table. -/
def PlanRow.inventory (rows : List PlanRow) : Inventory PlanRow Plan :=
  BigColumn.inventory PlanRow.id PlanRow.toPlan rows

namespace SubscriptionTable

/-- The statements are answered from the rows, or not at all. -/
structure Holds (t : SubscriptionTable) (rows : List SubscriptionRow) : Prop where
  select : ∀ c, AnsweredBy (t.select c) (rows.find? fun row => row.id = c)
  erase : ∀ c, AnsweredBy (t.erase c) (rows.countP fun row => row.id = c)

end SubscriptionTable

/-- Subscriptions in the rows of a table. -/
def SubscriptionRow.inventory (rows : List SubscriptionRow) :
    Inventory SubscriptionRow Subscription :=
  BigColumn.inventory SubscriptionRow.id SubscriptionRow.toSubscription rows

/-! ## The contract -/

/-- A look-up in a table, of plans or of subscriptions, is answered as it should be exactly if the
number is one that a row can have, and so is a removal.  In stores both are answered as they
should be whatever the number is, and what stores report of numbers without a value is what the
tables owe as well. -/
theorem lookups_keep_contract_iff {plans : PlanTable} {planRows : List PlanRow}
    (hplans : plans.Holds planRows) {subscriptions : SubscriptionTable}
    {subscriptionRows : List SubscriptionRow}
    (hsubscriptions : subscriptions.Holds subscriptionRows) (n : Nat) :
    ((PlanRow.inventory planRows).Finds n (plans.findById ⟨n⟩) ↔ n < 2 ^ 63) ∧
      ((PlanRow.inventory planRows).Removes (PlanStore.notFound ⟨n⟩) n (plans.delete ⟨n⟩) ↔
        n < 2 ^ 63) ∧
      ((SubscriptionRow.inventory subscriptionRows).Finds n (subscriptions.findById ⟨n⟩) ↔
        n < 2 ^ 63) ∧
      ((SubscriptionRow.inventory subscriptionRows).Removes (SubscriptionStore.notFound ⟨n⟩) n
          (subscriptions.delete ⟨n⟩) ↔
        n < 2 ^ 63) ∧
      (∀ s : PlanStore, (Store.inventory s).Finds n (.ok (s.findById ⟨n⟩)) ∧
        (Store.inventory s).Removes (PlanStore.notFound ⟨n⟩) n (s.delete ⟨n⟩).1) ∧
      ∀ s : SubscriptionStore, (Store.inventory s).Finds n (.ok (s.findById ⟨n⟩)) ∧
        (Store.inventory s).Removes (SubscriptionStore.notFound ⟨n⟩) n (s.delete ⟨n⟩).1 := by
  refine ⟨BigColumn.finds_lookUp_iff hplans.select _, ?_,
    BigColumn.finds_lookUp_iff hsubscriptions.select _, ?_,
    fun s => ⟨Store.finds s n, Store.removes s _ n⟩,
    fun s => ⟨Store.finds s n, Store.removes s _ n⟩⟩
  · exact BigColumn.removes_remove_iff hplans.erase _ nofun
  · exact BigColumn.removes_remove_iff hsubscriptions.erase _ nofun

/-- A table that has the rows and takes no others. -/
def PlanTable.ofRows (rows : List PlanRow) : PlanTable where
  insert := fun _ => .error (.failed "read only")
  overwrite := fun _ => .error (.failed "read only")
  erase := fun c => .ok (rows.countP fun row => row.id = c)
  select := fun c => .ok (rows.find? fun row => row.id = c)
  selectAll := .ok rows

theorem PlanTable.holds_ofRows (rows : List PlanRow) : (ofRows rows).Holds rows where
  select := fun _ => .inl rfl
  erase := fun _ => .inl rfl

/-- A closed pool answers nothing, so it holds any rows. -/
theorem SubscriptionTable.holds_closed (rows : List SubscriptionRow) : closed.Holds rows where
  select := fun _ => .inr ⟨.closedPool, rfl⟩
  erase := fun _ => .inr ⟨.closedPool, rfl⟩

/-- A plan is found under its number and may be removed, while no subscription can be had. -/
theorem padded_plan_is_found :
    let plans := PlanTable.ofRows [PlanRow.padded]
    plans.Holds [PlanRow.padded] ∧ SubscriptionTable.closed.Holds [] ∧
      (PlanRow.inventory [PlanRow.padded]).Finds 7 (plans.findById ⟨7⟩) ∧
      plans.findById ⟨7⟩ = .ok (some PlanRow.paddedPlan) ∧
      (PlanRow.inventory [PlanRow.padded]).Removes (PlanStore.notFound ⟨7⟩) 7 (plans.delete ⟨7⟩) ∧
      (SubscriptionRow.inventory []).Finds 7 (SubscriptionTable.closed.findById ⟨7⟩) := by
  intro plans
  have hplans : plans.Holds [PlanRow.padded] := PlanTable.holds_ofRows _
  have hsubscriptions : SubscriptionTable.closed.Holds [] := SubscriptionTable.holds_closed _
  obtain ⟨hfinds, hremoves, hunavailable, -⟩ := lookups_keep_contract_iff hplans hsubscriptions 7
  refine ⟨hplans, hsubscriptions, hfinds.mpr (by decide), ?_, hremoves.mpr (by decide),
    hunavailable.mpr (by decide)⟩
  have hanswer : plans.findById ⟨7⟩ = PlanRow.padded.toPlan.map some := rfl
  rw [hanswer, PlanRow.toPlan_padded]
  rfl

/-- No plan and no subscription has the first number that does not fit in a column.  Looking it up
and removing it is refused all the same, and not for want of a connection. -/
theorem number_beyond_column_is_refused :
    let refusal : Failure := .invalidField "id" "id out of range: 9223372036854775808"
    PlanTable.closed.findById ⟨2 ^ 63⟩ = .error refusal ∧
      ¬(PlanRow.inventory []).Finds (2 ^ 63) (PlanTable.closed.findById ⟨2 ^ 63⟩) ∧
      ¬(PlanRow.inventory []).Removes (PlanStore.notFound ⟨2 ^ 63⟩) (2 ^ 63)
        (PlanTable.closed.delete ⟨2 ^ 63⟩) ∧
      SubscriptionTable.closed.findById ⟨2 ^ 63⟩ = .error refusal ∧
      ¬(SubscriptionRow.inventory []).Finds (2 ^ 63)
        (SubscriptionTable.closed.findById ⟨2 ^ 63⟩) ∧
      ¬(SubscriptionRow.inventory []).Removes (SubscriptionStore.notFound ⟨2 ^ 63⟩) (2 ^ 63)
        (SubscriptionTable.closed.delete ⟨2 ^ 63⟩) := by
  intro refusal
  have hplan : PlanTable.closed.findById ⟨2 ^ 63⟩ = .error refusal := rfl
  have hplanGone : PlanTable.closed.delete ⟨2 ^ 63⟩ = .error refusal := rfl
  have hsubscription : SubscriptionTable.closed.findById ⟨2 ^ 63⟩ = .error refusal := rfl
  have hsubscriptionGone : SubscriptionTable.closed.delete ⟨2 ^ 63⟩ = .error refusal := rfl
  have hkind : refusal.kind ≠ .infrastructure := by decide
  have hplans : (PlanRow.inventory []).Lacks (2 ^ 63) := BigColumn.lacks_of_le (Nat.le_refl _)
  have hsubscriptions : (SubscriptionRow.inventory []).Lacks (2 ^ 63) :=
    BigColumn.lacks_of_le (Nat.le_refl _)
  rw [hplan, hplanGone, hsubscription, hsubscriptionGone]
  exact ⟨rfl, Inventory.not_finds_error hplans hkind,
    Inventory.not_removes_error (by decide) hkind, rfl,
    Inventory.not_finds_error hsubscriptions hkind, Inventory.not_removes_error (by decide) hkind⟩

end RecurringBilling
