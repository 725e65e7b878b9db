import RecurringBilling.Payment.Receipt
import RecurringBilling.Proofs.Calendar.WrittenInstants
import RecurringBilling.Proofs.Json.Members

/-!
# Receipts survive being written

An object holds a receipt where each of the five fields stands in it once, as a value of its
type, and the instant in any form that is read as it.  Exactly these objects are read as the
receipt, so neither the order of the members nor members with other names matter.  The object
that a receipt is written as holds it, since an instant is read back from its written form.
-/

namespace RecurringBilling

open RecurringBilling.Calendar RecurringBilling.Text

namespace Receipt

variable {r : Receipt} {members others : List (String × Json)} {s : List Char}

/-- The numbers of the receipt have 64 bits at most. -/
structure Fits (r : Receipt) : Prop where
  user : r.user.value < Decimal.bound64
  cents : r.cents < Decimal.bound64

/-- The members of a receipt in JSON. -/
def fields (r : Receipt) : List (String × Json) :=
  [("reference", .text r.reference), ("user_id", .nat r.user.value),
    ("amount_cents", .nat r.cents), ("currency", .text r.currency),
    ("charged_at", .text r.chargedAt.rfc3339)]

/-- The names a reader of receipts looks for. -/
def fieldNames : List String := ["reference", "user_id", "amount_cents", "currency", "charged_at"]

/-- The receipt of a text in JSON. -/
def ofText? (s : List Char) : Option Receipt := (Json.read? s).bind ofJson?

theorem toJson_eq_object (r : Receipt) : r.toJson = .object r.fields := rfl

/-! ## Reading -/

/-- The members hold the receipt, each field once and as a value of its type. -/
structure HeldBy (r : Receipt) (members : List (String × Json)) : Prop where
  reference : Json.valuesOf "reference" members = [.text r.reference]
  user : Json.valuesOf "user_id" members = [.nat r.user.value]
  cents : Json.valuesOf "amount_cents" members = [.nat r.cents]
  currency : Json.valuesOf "currency" members = [.text r.currency]
  chargedAt : ∃ text, Json.valuesOf "charged_at" members = [.text text] ∧
    Rfc3339.read? text.toList = some r.chargedAt
  fits : r.Fits

/-- Exactly the objects that hold a receipt are read as that receipt. -/
theorem ofJson?_object_eq_some_iff : ofJson? (.object members) = some r ↔ r.HeldBy members := by
  simp only [ofJson?, ofFields?, Option.pure_def, Option.bind_eq_bind, Option.bind_eq_some_iff,
    Option.some.injEq, Json.sole?_eq_some_iff, Json.text?_eq_some_iff, Json.unsigned?_eq_some_iff]
  constructor
  · rintro ⟨_, href, _, huser, _, hcents, _, hcurrency, _, hat, _, rfl, _, ⟨rfl, huser'⟩, _,
      ⟨rfl, hcents'⟩, _, rfl, _, ⟨text, rfl, hread⟩, rfl⟩
    exact ⟨href, huser, hcents, hcurrency, ⟨text, hat, hread⟩, huser', hcents'⟩
  · rintro ⟨href, huser, hcents, hcurrency, ⟨text, hat, hread⟩, huser', hcents'⟩
    exact ⟨_, href, _, huser, _, hcents, _, hcurrency, _, hat, _, rfl, _, ⟨rfl, huser'⟩, _,
      ⟨rfl, hcents'⟩, _, rfl, _, ⟨text, rfl, hread⟩, rfl⟩

theorem ofText?_of_heldBy (hread : Json.read? s = some (.object members))
    (hheld : r.HeldBy members) : ofText? s = some r := by
  rw [ofText?, hread, Option.bind_some]
  exact ofJson?_object_eq_some_iff.mpr hheld

/-! ## Writing -/

/-- The members of a receipt hold it in any order, and also among members with other names. -/
theorem heldBy_among (hr : r.Fits) (hothers : ∀ m ∈ others, m.1 ∉ fieldNames)
    (h : members.Perm (r.fields ++ others)) : r.HeldBy members := by
  have hname : ∀ {name : String}, name ∈ fieldNames → ∀ m ∈ others, m.1 ≠ name :=
    fun hname m hm heq => hothers m hm (heq ▸ hname)
  exact {
    reference := Json.valuesOf_among rfl (hname (by decide)) h
    user := Json.valuesOf_among rfl (hname (by decide)) h
    cents := Json.valuesOf_among rfl (hname (by decide)) h
    currency := Json.valuesOf_among rfl (hname (by decide)) h
    chargedAt := ⟨_, Json.valuesOf_among rfl (hname (by decide)) h, r.chargedAt.read?_rfc3339⟩
    fits := hr }

theorem heldBy_fields (hr : r.Fits) : r.HeldBy r.fields := by
  have halone : r.fields.Perm (r.fields ++ []) := by rw [List.append_nil]
  exact heldBy_among hr (by simp) halone

theorem haveOnlyPlain_fields (hr : r.Fits) : Json.haveOnlyPlain r.fields = true := by
  simp only [fields, Json.haveOnlyPlain, Json.isPlain, Json.isPlain_nat hr.user,
    Json.isPlain_nat hr.cents, Bool.and_self]

theorem isPlain_among (hr : r.Fits) (hothers : Json.haveOnlyPlain others = true)
    (h : members.Perm (r.fields ++ others)) : (Json.object members).isPlain = true := by
  rw [Json.isPlain, Json.haveOnlyPlain_iff]
  intro m hm
  rcases List.mem_append.mp (h.mem_iff.mp hm) with hown | hother
  · exact Json.haveOnlyPlain_iff.mp (haveOnlyPlain_fields hr) m hown
  · exact Json.haveOnlyPlain_iff.mp hothers m hother

/-- A receipt is read back from the text it is written as. -/
theorem ofText?_toJson (hr : r.Fits) : ofText? r.toJson.write = some r := by
  have hplain : (Json.object r.fields).isPlain = true := haveOnlyPlain_fields hr
  rw [toJson_eq_object]
  exact ofText?_of_heldBy (Json.read?_write hplain) (heldBy_fields hr)

end Receipt

/-- A receipt is read back from its text in JSON, from the text of its members in another order
and among others, and from any other text of such an object.  An instant is read back from the
text that it is written as, a date and time with a fraction of no, three, six or nine digits and
a sign in front of the years other than 0 to 9999. -/
theorem receipts_and_instants_survive_writing :
    (∀ r : Receipt, r.Fits → Receipt.ofText? r.toJson.write = some r ∧
      ∀ members others : List (String × Json), (∀ m ∈ others, m.1 ∉ Receipt.fieldNames) →
        members.Perm (r.fields ++ others) →
          (Json.haveOnlyPlain others = true →
            Receipt.ofText? (Json.object members).write = some r) ∧
          ∀ s, Json.read? s = some (.object members) → Receipt.ofText? s = some r) ∧
      ∀ t : Instant, t.HasForm t.rfc3339.toList ∧ Rfc3339.read? t.rfc3339.toList = some t := by
  refine ⟨fun r hr => ⟨Receipt.ofText?_toJson hr, ?_⟩,
    fun t => ⟨t.hasForm_rfc3339, t.read?_rfc3339⟩⟩
  intro members others hothers hperm
  have hheld := Receipt.heldBy_among hr hothers hperm
  constructor
  · intro hplain
    exact Receipt.ofText?_of_heldBy (Json.read?_write (Receipt.isPlain_among hr hplain hperm)) hheld
  · intro s hread
    exact Receipt.ofText?_of_heldBy hread hheld

/-- A receipt with characters that are escaped, the greatest identifier and a year of five
digits. -/
def escapedReceipt : Receipt where
  reference := "\"\x01é"
  user := ⟨18446744073709551615⟩
  cents := 0
  currency := "€"
  chargedAt := ⟨253402300800, 120000000, by decide, by decide⟩

set_option maxRecDepth 2000 in
/-- The members of the receipt in the opposite order, and an unknown one in front of them. -/
theorem escapedReceipt_is_read_back :
    Receipt.ofText? (Json.object (escapedReceipt.fields ++ [("note", Json.list [])]).reverse).write
        = some escapedReceipt ∧
      Receipt.ofText?
          ("\x7b\"note\":[],\"charged_at\":\"+10000-01-01T00:00:00.120Z\",".toList
            ++ "\"currency\":\"\\u20AC\", \"amount_cents\":0,".toList
            ++ "\"user_id\":18446744073709551615,\"reference\":\"\\\"\\u0001é\"\x7d".toList)
        = some escapedReceipt := by
  have hothers : ∀ m ∈ [("note", Json.list [])], m.1 ∉ Receipt.fieldNames := by decide
  have hfits : escapedReceipt.Fits := ⟨by decide, by decide⟩
  have hread := (receipts_and_instants_survive_writing.1 escapedReceipt hfits).2 _ _ hothers
    (List.reverse_perm _)
  exact ⟨hread.1 rfl, hread.2 _ rfl⟩

end RecurringBilling
