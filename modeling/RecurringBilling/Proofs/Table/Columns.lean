import Mathlib.Algebra.Group.Nat.Defs
import RecurringBilling.Table.Column

/-!
# What columns hold

A column holds a number of the domain when it holds the same integer.  Writing succeeds
with the column that holds the number and reading with the number that the column holds,
so the two undo each other; a number fits if it is below the bound of the column.
-/

namespace RecurringBilling

open RecurringBilling.Text

namespace Failure

/-- The failure says that the value of the named field breaks a rule. -/
def IsInvalid (field : String) (f : Failure) : Prop :=
  f.code = .validationFailed ∧ f.detail? "field" = some field

theorem isInvalid_invalidField (field message : String) :
    (invalidField field message).IsInvalid field :=
  ⟨rfl, detail?_withDetail _ "field" field⟩

end Failure

namespace Signed

variable {bound : Nat}

theorem eq_of_value {c d : Signed bound} (h : c.value = d.value) : c = d := by
  cases c
  cases d
  cases h
  rfl

theorem value_inj {c d : Signed bound} : c.value = d.value ↔ c = d :=
  ⟨eq_of_value, congrArg value⟩

theorem ofNat?_eq_some_iff {n : Nat} {c : Signed bound} : ofNat? n = some c ↔ c.value = n := by
  unfold ofNat?
  split
  · rw [Option.some.injEq, ← value_inj]
    exact eq_comm
  · next hlarge =>
    constructor
    · intro h
      cases h
    · intro h
      have := c.upper
      omega

theorem ofNat?_eq_none {n : Nat} (h : bound ≤ n) : (ofNat? n : Option (Signed bound)) = none :=
  dif_neg (Nat.not_lt.mpr h)

end Signed

namespace BigColumn

variable {field : String} {n : Nat} {c : BigColumn}

theorem ofNat_eq_ok_iff : ofNat field n = .ok c ↔ c.value = n := by
  rw [← Signed.ofNat?_eq_some_iff, ofNat]
  cases (Signed.ofNat? n : Option BigColumn) with
  | none => simp
  | some d => simp

theorem toNat_eq_ok_iff : toNat field c = .ok n ↔ c.value = n := by
  unfold toNat
  split
  · next hsign => rw [Except.ok.injEq]; omega
  · next hsign =>
    constructor
    · intro h
      cases h
    · intro h
      omega

theorem exists_value (h : n < 2 ^ 63) : ∃ c : BigColumn, c.value = n :=
  ⟨⟨n, by omega, by omega⟩, rfl⟩

theorem ofNat_of_le (field : String) (h : 2 ^ 63 ≤ n) :
    ofNat field n =
      .error (.invalidField field (field ++ " out of range: " ++ Decimal.numeral n)) := by
  have hnone : (Signed.ofNat? n : Option BigColumn) = none := Signed.ofNat?_eq_none (by omega)
  rw [ofNat, hnone]

end BigColumn

end RecurringBilling
