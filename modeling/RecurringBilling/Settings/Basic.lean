import RecurringBilling.Settings.LogFilter
import RecurringBilling.Text.Decimal

/-!
# Settings

The settings of the service in three sections.  Settings that can be read need
not make sense; a check finds the first rule that one of them breaks, section by
section.
-/

namespace RecurringBilling

open RecurringBilling.Text

/-- How the database is reached.  Times count seconds. -/
structure DatabaseSettings where
  url : String
  minConnections : Nat := 5
  maxConnections : Nat := 20
  acquireTimeout : Nat := 30
  idleTimeout : Nat := 600
  runMigrations : Bool := false
  deriving DecidableEq, Repr

/-- How tokens are signed.  The lifetime counts seconds. -/
structure AuthSettings where
  secret : String
  issuer : String := "subscription-billing"
  tokenLifetime : Nat := 3600
  deriving DecidableEq, Repr

/-- What is logged, and how. -/
structure TelemetrySettings where
  level : String := "info"
  json : Bool := false
  deriving DecidableEq, Repr

/-- All settings. -/
structure Settings where
  database : DatabaseSettings
  auth : AuthSettings
  telemetry : TelemetrySettings := {}
  deriving DecidableEq, Repr

namespace Settings

/-- The largest pool of connections. -/
def maxPoolSize : Nat := 100

/-- The least number of bytes in a signing secret. -/
def minSecretBytes : Nat := 32

/-- The longest lifetime of a token, thirty days. -/
def maxTokenLifetime : Nat := 30 * 24 * 60 * 60

/-- The rule that a setting breaks. -/
inductive Flaw where
  | missing (name : String)
  | databaseUrl
  | poolSize
  | poolTooLarge
  | secretTooShort
  | tokenLifetime
  | logFilter (flaw : LogFilter.Flaw)
  deriving DecidableEq, Repr

/-- The rule in words. -/
def Flaw.message : Flaw → String
  | .missing name => "Required configuration missing: " ++ name
  | .databaseUrl => "Invalid database URL format"
  | .poolSize => "Pool min_connections exceeds max_connections"
  | .poolTooLarge =>
    "Pool size exceeds maximum allowed (" ++ Decimal.numeral maxPoolSize ++ ")"
  | .secretTooShort =>
    "JWT secret must be at least " ++ Decimal.numeral minSecretBytes ++ " bytes"
  | .tokenLifetime => "Token TTL must be between 1 second and 30 days"
  | .logFilter flaw => "Invalid log filter: " ++ flaw.message

end Settings

/-- The first rule that the settings of the database break. -/
def DatabaseSettings.flaw? (s : DatabaseSettings) : Option Settings.Flaw :=
  if s.url.isEmpty then some (.missing "DATABASE_URL")
  else if !("postgres://".toList.isPrefixOf s.url.toList
      || "postgresql://".toList.isPrefixOf s.url.toList) then some .databaseUrl
  else if s.maxConnections < s.minConnections then some .poolSize
  else if Settings.maxPoolSize < s.maxConnections then some .poolTooLarge
  else none

/-- The first rule that the settings of the tokens break. -/
def AuthSettings.flaw? (s : AuthSettings) : Option Settings.Flaw :=
  if s.secret.isEmpty then some (.missing "JWT_SECRET")
  else if byteLength s.secret.toList < Settings.minSecretBytes then some .secretTooShort
  else if (trim s.issuer.toList).isEmpty then some (.missing "ISSUER")
  else if s.tokenLifetime = 0 ∨ Settings.maxTokenLifetime < s.tokenLifetime then
    some .tokenLifetime
  else none

/-- The first rule that the settings of the log break. -/
def TelemetrySettings.flaw? (s : TelemetrySettings) : Option Settings.Flaw :=
  (LogFilter.flaw? s.level.toList).map .logFilter

/-- The first rule that some setting breaks. -/
def Settings.flaw? (s : Settings) : Option Settings.Flaw :=
  (s.database.flaw?.or s.auth.flaw?).or s.telemetry.flaw?

end RecurringBilling
