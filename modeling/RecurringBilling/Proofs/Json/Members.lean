import RecurringBilling.Proofs.Json.RoundTrip

/-!
# Members of an object

A reader of an object looks for the values under the names it knows.  Where one stands there
once, it finds that value, wherever in the object it stands and whatever members with other
names stand around it.
-/

namespace RecurringBilling.Json

open RecurringBilling.Text

/-! ## The values under a name -/

theorem sole?_eq_some_iff {name : String} {members : List (String × Json)} {v : Json} :
    sole? name members = some v ↔ valuesOf name members = [v] := by
  unfold sole?
  split
  · next w hw => rw [hw, Option.some.injEq, List.cons.injEq, and_iff_left rfl]
  · next hne =>
    constructor
    · intro h
      cases h
    · intro h
      exact absurd h (hne v)

section ValuesOf

variable {name : String} {members others : List (String × Json)}

theorem valuesOf_append :
    valuesOf name (members ++ others) = valuesOf name members ++ valuesOf name others := by
  simp [valuesOf]

theorem valuesOf_eq_nil (h : ∀ m ∈ members, m.1 ≠ name) : valuesOf name members = [] := by
  rw [valuesOf, List.map_eq_nil_iff, List.filter_eq_nil_iff]
  intro m hm
  simpa using h m hm

theorem valuesOf_perm (h : members.Perm others) :
    (valuesOf name members).Perm (valuesOf name others) :=
  (h.filter _).map _

/-- A value that stands under its name once does so in any order, among members with other
names. -/
theorem valuesOf_among {own : List (String × Json)} {v : Json} (hown : valuesOf name own = [v])
    (hothers : ∀ m ∈ others, m.1 ≠ name) (h : members.Perm (own ++ others)) :
    valuesOf name members = [v] := by
  have hvalues : (valuesOf name members).Perm (valuesOf name (own ++ others)) := valuesOf_perm h
  rw [valuesOf_append, hown, valuesOf_eq_nil hothers, List.append_nil] at hvalues
  exact List.perm_singleton.mp hvalues

end ValuesOf

/-! ## Values of a type -/

theorem text?_eq_some_iff {v : Json} {s : String} : v.text? = some s ↔ v = .text s := by
  cases v <;> simp [text?]

theorem signed?_eq_some_iff {v : Json} {z : Int} :
    v.signed? = some z ↔ v = .integer z ∧ minInteger ≤ z ∧ z ≤ maxSigned := by
  cases v with
  | integer n =>
    simp only [signed?, integerBetween?, Option.ite_none_right_eq_some,
      Option.some.injEq, integer.injEq]
    constructor
    · rintro ⟨hbounds, rfl⟩
      exact ⟨rfl, hbounds⟩
    · rintro ⟨rfl, hbounds⟩
      exact ⟨hbounds, rfl⟩
  | _ => simp [signed?, integerBetween?]

theorem unsigned?_eq_some_iff {v : Json} {n : Nat} :
    v.unsigned? = some n ↔ v = .nat n ∧ n < Decimal.bound64 := by
  cases v with
  | integer z =>
    simp only [unsigned?, integerBetween?, nat, Option.map_eq_some_iff,
      Option.ite_none_right_eq_some, Option.some.injEq, integer.injEq]
    constructor
    · rintro ⟨_, ⟨hbounds, rfl⟩, rfl⟩
      unfold maxInteger at hbounds
      unfold Decimal.bound64
      omega
    · rintro ⟨rfl, hn⟩
      unfold Decimal.bound64 at hn
      unfold maxInteger
      exact ⟨n, ⟨by omega, rfl⟩, Int.toNat_natCast n⟩
  | _ => simp [unsigned?, integerBetween?, nat]

/-! ## Plain members -/

theorem isPlain_nat {n : Nat} (hn : n < Decimal.bound64) : (nat n).isPlain = true := by
  simp only [nat, isPlain, Bool.and_eq_true, decide_eq_true_eq]
  unfold Decimal.bound64 at hn
  unfold minInteger maxInteger
  omega

theorem haveOnlyPlain_iff {members : List (String × Json)} :
    haveOnlyPlain members = true ↔ ∀ m ∈ members, m.2.isPlain = true := by
  induction members with
  | nil => simp [haveOnlyPlain]
  | cons m members ih => simp [haveOnlyPlain, ih]

end RecurringBilling.Json
