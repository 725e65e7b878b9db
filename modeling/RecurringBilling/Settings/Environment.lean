import RecurringBilling.Settings.Basic
import RecurringBilling.Text.Quoted

/-!
# Settings from the environment

A setting is found in the variable that spells its path: `billing`, its section
and its name, with two underscores between them and letters in any case.  Other
bindings are passed over.  A value is text and is read as its setting requires.
-/

namespace RecurringBilling.Environment

open RecurringBilling.Text

/-- The place of a setting: its section and its name. -/
abbrev Path := List (List Char)

/-- Variables that have the form of a setting, oldest first. -/
abbrev Entries := List (Path × String)

/-! ## Variables -/

/-- The lower case of a letter, where that is a letter of ASCII: the Kelvin sign
counts as a K. -/
def lowerCase (c : Char) : Char := if c = '\u212A' then 'k' else c.toLower

/-- Puts a dot in the place of two underscores. -/
def dotted : List Char → List Char
  | '_' :: '_' :: rest => '.' :: dotted rest
  | c :: rest => c :: dotted rest
  | [] => []

/-- A character of a name in a path. -/
def isNameChar (c : Char) : Bool := c.isAlphanum || c = ' ' || c = '_' || c = '-'

/-- What every variable of a setting starts with. -/
def leader : List Char := "billing__".toList

/-- The path that the name of a variable spells. -/
def path? (name : String) : Option Path :=
  let letters := name.toList.map lowerCase
  if leader.isPrefixOf letters then
    let path := splitAt '.' (dotted (letters.drop leader.length))
    if path.all fun part => !part.isEmpty && part.all isNameChar then some path else none
  else none

/-- The settings among bindings. -/
def entries (bindings : List (String × String)) : Entries :=
  bindings.filterMap fun (name, value) => (path? name).map (·, value)

/-- What stands at a path: text, or something that goes on with longer paths. -/
inductive Found where
  | text (s : String)
  | table
  deriving DecidableEq, Repr

/-- What an entry puts at a path. -/
def foundIn? (path : Path) (entry : Path × String) : Option Found :=
  if path == entry.1 then some (.text entry.2)
  else if path.isPrefixOf entry.1 then some .table
  else none

/-- What stands at a path; the last entry decides. -/
def find? (es : Entries) (path : Path) : Option Found :=
  es.reverse.findSome? (foundIn? path)

/-! ## Values -/

/-- Why the settings cannot be read. -/
inductive LoadError where
  | missing (name : String)
  | notSection (text form : String)
  | wrongText (text expected key : String)
  | wrongTable (expected key : String)
  | tooLarge (n : Nat) (key : String)
  deriving DecidableEq, Repr

/-- The reason in words. -/
def LoadError.message : LoadError → String
  | .missing name => "missing field `" ++ name ++ "`"
  | .notSection text form =>
    "invalid type: string " ++ String.ofList (Quoted.write text.toList) ++ ", expected struct "
      ++ form
  | .wrongText text expected key =>
    "invalid type: string " ++ String.ofList (Quoted.write text.toList) ++ ", expected "
      ++ expected ++ " for key `" ++ key ++ "` in the environment"
  | .wrongTable expected key =>
    "invalid type: map, expected " ++ expected ++ " for key `" ++ key ++ "`"
  | .tooLarge n key =>
    "invalid type: 64-bit unsigned integer `" ++ Decimal.numeral n
      ++ "`, expected an unsigned 32 bit integer for key `" ++ key ++ "`"

/-- Words for "yes", other than the digit. -/
def yesWords : List String := ["true", "on", "yes"]

/-- Words for "no", other than the digit. -/
def noWords : List String := ["false", "off", "no"]

/-- A text in lower case. -/
def folded (s : String) : String := String.ofList (s.toList.map lowerCase)

/-- The number that a text spells: a word counts as one or zero. -/
def number? (s : String) : Option Nat :=
  if yesWords.contains (folded s) then some 1
  else if noWords.contains (folded s) then some 0
  else
    match Decimal.read Decimal.bound64 s.toList with
    | .ok n => some n
    | .error _ => none

/-- The truth value that a text spells. -/
def bool? (s : String) : Option Bool :=
  if ("1" :: yesWords).contains (folded s) then some true
  else if ("0" :: noWords).contains (folded s) then some false
  else none

/-- The path of a setting. -/
def settingPath (group name : String) : Path := [group.toList, name.toList]

/-- The setting as messages name it. -/
def key (group name : String) : String := group ++ "." ++ name

/-- Reads a setting, if it is there, in a form that `read?` understands. -/
def setting {α : Type} (es : Entries) (expected : String) (read? : String → Option α)
    (group name : String) : Except LoadError (Option α) :=
  match find? es (settingPath group name) with
  | none => .ok none
  | some .table => .error (.wrongTable expected (key group name))
  | some (.text s) =>
    match read? s with
    | none => .error (.wrongText s expected (key group name))
    | some a => .ok (some a)

/-- Reads text. -/
def text (es : Entries) (group name : String) : Except LoadError (Option String) :=
  setting es "a string" some group name

/-- Reads a truth value. -/
def bool (es : Entries) (group name : String) : Except LoadError (Option Bool) :=
  setting es "a boolean" bool? group name

/-- Reads a number of at most 64 bits. -/
def number (es : Entries) (group name : String) : Except LoadError (Option Nat) :=
  setting es "an integer" number? group name

/-- Reads a number of at most 32 bits. -/
def number32 (es : Entries) (group name : String) : Except LoadError (Option Nat) := do
  match ← number es group name with
  | none => return none
  | some n => if n < Decimal.bound32 then return some n else throw (.tooLarge n (key group name))

/-! ## Sections -/

/-- A setting that must be there. -/
def required {α : Type} (name : String) : Option α → Except LoadError α
  | none => .error (.missing name)
  | some a => .ok a

/-- Reads a section, if there is anything in it. -/
def readSection {α : Type} (es : Entries) (name form : String) (read : Except LoadError α) :
    Except LoadError (Option α) :=
  match find? es [name.toList] with
  | none => .ok none
  | some (.text s) => .error (.notSection s form)
  | some .table => read.map some

/-- Reads the settings of the database. -/
def database (es : Entries) : Except LoadError DatabaseSettings := do
  let url ← text es "database" "url"
  let minConnections ← number32 es "database" "min_connections"
  let maxConnections ← number32 es "database" "max_connections"
  let acquireTimeout ← number es "database" "acquire_timeout_secs"
  let idleTimeout ← number es "database" "idle_timeout_secs"
  let runMigrations ← bool es "database" "run_migrations"
  let url ← required "url" url
  let defaults : DatabaseSettings := { url }
  return {
    url
    minConnections := minConnections.getD defaults.minConnections
    maxConnections := maxConnections.getD defaults.maxConnections
    acquireTimeout := acquireTimeout.getD defaults.acquireTimeout
    idleTimeout := idleTimeout.getD defaults.idleTimeout
    runMigrations := runMigrations.getD defaults.runMigrations }

/-- Reads the settings of the tokens. -/
def auth (es : Entries) : Except LoadError AuthSettings := do
  let secret ← text es "auth" "jwt_secret"
  let issuer ← text es "auth" "issuer"
  let tokenLifetime ← number es "auth" "token_ttl_secs"
  let secret ← required "jwt_secret" secret
  let defaults : AuthSettings := { secret }
  return {
    secret
    issuer := issuer.getD defaults.issuer
    tokenLifetime := tokenLifetime.getD defaults.tokenLifetime }

/-- Reads the settings of the log. -/
def telemetry (es : Entries) : Except LoadError TelemetrySettings := do
  let level ← text es "telemetry" "level"
  let json ← bool es "telemetry" "json"
  let defaults : TelemetrySettings := {}
  return { level := level.getD defaults.level, json := json.getD defaults.json }

/-- Reads all settings.  Only the log can do without its section. -/
def load (bindings : List (String × String)) : Except LoadError Settings := do
  let es := entries bindings
  let database ← readSection es "database" "DatabaseConfig" (database es)
  let auth ← readSection es "auth" "AuthConfig" (auth es)
  let telemetry ← readSection es "telemetry" "TelemetryConfig" (telemetry es)
  let database ← required "database" database
  let auth ← required "auth" auth
  return { database, auth, telemetry := telemetry.getD {} }

/-- Why the settings cannot be used. -/
inductive Problem where
  | unreadable (e : LoadError)
  | flawed (flaw : Settings.Flaw)
  deriving DecidableEq, Repr

/-- The problem in words. -/
def Problem.message : Problem → String
  | .unreadable e => "Configuration loading failed: " ++ e.message
  | .flawed flaw => "Validation failed: " ++ flaw.message

/-- Reads all settings and checks them. -/
def loadChecked (bindings : List (String × String)) : Except Problem Settings :=
  match load bindings with
  | .error e => .error (.unreadable e)
  | .ok settings =>
    match settings.flaw? with
    | some flaw => .error (.flawed flaw)
    | none => .ok settings

end RecurringBilling.Environment
