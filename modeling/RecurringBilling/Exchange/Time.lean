import RecurringBilling.Calendar.Rfc3339
import RecurringBilling.Json.Field

/-!
# Instants in JSON

An instant is taken as a pair of seconds and nanoseconds, and given as text.
-/

namespace RecurringBilling.Calendar.Instant

/-- The instant of a pair of seconds and nanoseconds. -/
def ofPair? : Json → Option Instant
  | .list [seconds, nanos] => do
    let seconds ← seconds.signed?
    let nanos ← nanos.integerBetween? 0 999999999
    ofParts? seconds nanos.toNat
  | _ => none

/-- The instant as text. -/
def toJson (t : Instant) : Json := .text t.rfc3339

/-- The instant with its parts. -/
def toDetailedJson (t : Instant) : Json :=
  .object
    [("display", .text t.display), ("json", t.toJson), ("zero", .bool t.isUnset),
      ("secs", .integer t.seconds), ("nanos", .nat t.nanos)]

end RecurringBilling.Calendar.Instant
