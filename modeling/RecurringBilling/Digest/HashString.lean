import RecurringBilling.Digest.Argon2.Basic
import RecurringBilling.Text.Base64
import RecurringBilling.Text.Decimal
import RecurringBilling.Text.Split
import RecurringBilling.Text.Utf8

/-!
# Hash strings

The hash of a password travels with everything that is needed to verify a
password against it: `$variant$v=version$settings$salt$hash`.  Version and
settings may be left out.  What does not follow the grammar matches no password.
-/

namespace RecurringBilling.Digest

open RecurringBilling.Text

/-- A hash and what it was computed with. -/
structure HashString where
  settings : Argon2.Settings
  salt : List UInt8
  hash : List UInt8
  deriving DecidableEq, Repr

namespace HashString

/-- What holds where a hash string says nothing else. -/
def defaults : Argon2.Settings :=
  { variant := .hybrid
    version := .newer
    memory := 19456
    passes := 2
    lanes := 1
    size := 32
    extra := [] }

/-- The name of a variant. -/
def variantName : Argon2.Variant → String
  | .dependent => "argon2d"
  | .independent => "argon2i"
  | .hybrid => "argon2id"

/-- The variant of a name. -/
def variant? (s : List Char) : Option Argon2.Variant :=
  [Argon2.Variant.dependent, .independent, .hybrid].find? fun v => (variantName v).toList == s

/-- The version of a number in its only spelling. -/
def version? (s : List Char) : Option Argon2.Version :=
  [Argon2.Version.older, .newer].find? fun v => Decimal.write v.number == s

/-- A number of 32 bits in its only spelling. -/
def number? (s : List Char) : Option Nat :=
  match Decimal.readDigits Decimal.bound32 0 s with
  | .ok n => if Decimal.write n = s then some n else none
  | .error _ => none

/-- Bytes in base 64, at most `bound` of them. -/
def bytes? (bound : Nat) (s : List Char) : Option (List UInt8) :=
  (Base64.decode .standard s).filter fun bytes => bytes.length ≤ bound

/-- Applies one setting, a name and a value. -/
def applySetting? (settings : Argon2.Settings) (field : List Char) : Option Argon2.Settings :=
  match splitAt '=' field with
  | [['m'], value] => (number? value).map fun n => { settings with memory := n }
  | [['t'], value] => (number? value).map fun n => { settings with passes := n }
  | [['p'], value] => (number? value).map fun n => { settings with lanes := n }
  | [['k', 'e', 'y', 'i', 'd'], value] => (bytes? 8 value).map fun _ => settings
  | [['d', 'a', 't', 'a'], value] => (bytes? 32 value).map fun bytes => { settings with extra := bytes }
  | _ => none

/-- The settings are within the limits. -/
def admits (settings : Argon2.Settings) : Bool :=
  1 ≤ settings.passes && 1 ≤ settings.lanes && settings.lanes ≤ 0xFFFFFF
    && 8 * settings.lanes ≤ settings.memory

/-- Reads a version where there is one. -/
def readVersion? (settings : Argon2.Settings) :
    List (List Char) → Option (Argon2.Settings × List (List Char))
  | ('v' :: '=' :: number) :: fields =>
    if number.contains ',' then some (settings, ('v' :: '=' :: number) :: fields)
    else (version? number).map fun version => ({ settings with version }, fields)
  | fields => some (settings, fields)

/-- Reads settings where there are any. -/
def readSettings? (settings : Argon2.Settings) :
    List (List Char) → Option (Argon2.Settings × List (List Char))
  | [] => some (settings, [])
  | field :: fields =>
    if !field.contains '=' then some (settings, field :: fields)
    else if 127 < field.length then none
    else ((splitAt ',' field).foldlM applySetting? settings).map (·, fields)

/-- Reads a hash string. -/
def read? (s : List Char) : Option HashString :=
  match splitAt '$' s with
  | [] :: name :: fields => do
    let variant ← variant? name
    let (settings, fields) ← readVersion? { defaults with variant } fields
    let (settings, fields) ← readSettings? settings fields
    match fields with
    | [salt, hash] =>
      let salt ← bytes? 48 salt
      let hash ← bytes? 64 hash
      if 8 ≤ salt.length && 10 ≤ hash.length && admits settings then
        some { settings := { settings with size := hash.length }, salt, hash }
      else none
    | _ => none
  | _ => none

/-- The settings in a hash string. -/
def writeSettings (settings : Argon2.Settings) : String :=
  "m=" ++ Decimal.numeral settings.memory ++ ",t=" ++ Decimal.numeral settings.passes ++ ",p="
    ++ Decimal.numeral settings.lanes

/-- The parts of a hash string between the dollar signs. -/
def parts (h : HashString) : List String :=
  ["", variantName h.settings.variant, "v=" ++ Decimal.numeral h.settings.version.number,
    writeSettings h.settings, String.ofList (Base64.encode .standard h.salt),
    String.ofList (Base64.encode .standard h.hash)]

/-- The text of a hash string. -/
def write (h : HashString) : String := "$".intercalate h.parts

/-- Hashes a password with a salt. -/
def ofPassword (plaintext : String) (salt : List UInt8) : HashString :=
  { settings := defaults, salt, hash := Argon2.stretch defaults (Utf8.bytes plaintext) salt }

/-- The password has the hash. -/
def isHashOf (h : HashString) (plaintext : String) : Bool :=
  Argon2.stretch h.settings (Utf8.bytes plaintext) h.salt == h.hash

/-- The password has the hash that a text spells. -/
def verify (plaintext text : String) : Bool :=
  match read? text.toList with
  | none => false
  | some h => h.isHashOf plaintext

end HashString

end RecurringBilling.Digest
