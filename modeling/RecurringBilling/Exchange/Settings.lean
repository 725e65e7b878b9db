import RecurringBilling.Json.Field
import RecurringBilling.Settings.Basic

/-!
# Settings in JSON
-/

namespace RecurringBilling

open RecurringBilling.Json

/-- Reads the settings of the database. -/
def DatabaseSettings.ofMembers? (o : Members) : Option DatabaseSettings := do
  let url ← o.required "url" text?
  let minConnections ← o.optional "min_connections" unsigned32?
  let maxConnections ← o.optional "max_connections" unsigned32?
  let defaults : DatabaseSettings := { url }
  return { defaults with
    minConnections := minConnections.getD defaults.minConnections
    maxConnections := maxConnections.getD defaults.maxConnections }

/-- Reads the settings of the tokens. -/
def AuthSettings.ofMembers? (o : Members) : Option AuthSettings := do
  let secret ← o.required "jwt_secret" text?
  let issuer ← o.optional "issuer" text?
  let tokenLifetime ← o.optional "token_ttl_secs" unsigned?
  let defaults : AuthSettings := { secret }
  return { defaults with
    issuer := issuer.getD defaults.issuer
    tokenLifetime := tokenLifetime.getD defaults.tokenLifetime }

/-- Reads the settings of the log. -/
def TelemetrySettings.ofMembers? (o : Members) : Option TelemetrySettings := do
  let level ← o.optional "level" text?
  let json ← o.optional "json" bool?
  let defaults : TelemetrySettings := {}
  return { level := level.getD defaults.level, json := json.getD defaults.json }

/-- Reads all settings. -/
def Settings.ofMembers? (o : Members) : Option Settings := do
  let database ← (o.required "database" members?).bind DatabaseSettings.ofMembers?
  let auth ← (o.required "auth" members?).bind AuthSettings.ofMembers?
  let telemetry ← (o.required "telemetry" members?).bind TelemetrySettings.ofMembers?
  return { database, auth, telemetry }

/-- The settings in JSON. -/
def Settings.toJson (s : Settings) : Json :=
  .object
    [("database", .object
      [("url", .text s.database.url), ("min_connections", .nat s.database.minConnections),
        ("max_connections", .nat s.database.maxConnections),
        ("acquire_timeout", .nat s.database.acquireTimeout),
        ("idle_timeout", .nat s.database.idleTimeout),
        ("run_migrations", .bool s.database.runMigrations)]),
      ("auth", .object
        [("jwt_secret", .text s.auth.secret), ("issuer", .text s.auth.issuer),
          ("token_ttl", .nat s.auth.tokenLifetime)]),
      ("telemetry", .object
        [("level", .text s.telemetry.level), ("json", .bool s.telemetry.json)])]

end RecurringBilling
