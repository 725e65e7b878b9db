import RecurringBilling.Calendar.Instant
import RecurringBilling.Digest.Hmac
import RecurringBilling.Failure
import RecurringBilling.Identity.Account
import RecurringBilling.Json.Reader
import RecurringBilling.Json.Writer
import RecurringBilling.Text.Base64
import RecurringBilling.Text.Split
import RecurringBilling.Token.Claims
import RecurringBilling.Token.Header

/-!
# The token service

A token is a header, claims and a signature in base 64 with dots between them.
The service signs tokens for accounts and finds out for which user a token was
issued.  A token is good until a minute after its expiry.
-/

namespace RecurringBilling

open RecurringBilling.Calendar RecurringBilling.Digest RecurringBilling.Text
open RecurringBilling.Token

/-- A service that issues and resolves tokens.  `lifetime` counts seconds. -/
structure TokenService where
  secret : String
  issuer : String
  lifetime : Nat
  deriving DecidableEq, Repr

namespace TokenService

/-- Seconds for which a token outlives its expiry. -/
def leeway : Int := 60

/-- Why a token is not resolved. -/
inductive Refusal where
  | expired
  | invalid
  deriving DecidableEq, Repr

/-- The failure of a refused token. -/
def Refusal.failure : Refusal → Failure
  | .expired => { code := .unauthorized, message := "token expired" }
  | .invalid => { code := .unauthorized, message := "invalid token" }

/-! ## Text -/

/-- The part of a token that holds a JSON value. -/
def writePart (v : Json) : List Char :=
  Base64.encode .url (Utf8.encode v.write)

/-- The JSON value in a part of a token. -/
def readPart? (s : List Char) : Option Json :=
  (Base64.decode .url s).bind Json.readBytes?

/-- The signature of a text. -/
def sign (sv : TokenService) (message : List Char) : List Char :=
  Base64.encode .url (Hmac.sha256 (Utf8.bytes sv.secret) (Utf8.encode message))

/-- Splits a text at its last dot. -/
def splitLast? (s : List Char) : Option (List Char × List Char) :=
  let last := (s.reverse.takeWhile (· ≠ '.')).reverse
  if last.length = s.length then none
  else some (s.take (s.length - last.length - 1), last)

/-! ## Issuing -/

/-- The last instant up to which a token may run, in seconds. -/
def latestExpiry : Int := Json.maxSigned

/-- The claims of a token issued to a user. -/
def claimsFor (sv : TokenService) (user : UserId) (now : Instant) : Claims :=
  { subject := user.numeral
    issuer := sv.issuer
    issuedAt := now.seconds
    expiry := min (now.seconds + min (sv.lifetime : Int) latestExpiry) latestExpiry }

/-- The token that carries claims. -/
def tokenOf (sv : TokenService) (claims : Claims) : String :=
  let message := writePart header ++ '.' :: writePart claims.toJson
  String.ofList (message ++ '.' :: sv.sign message)

/-- Issues a token to a user, who must have been stored. -/
def issueTo (sv : TokenService) (now : Instant) (user : UserId) : Except Failure String :=
  if user.isAssigned then .ok (sv.tokenOf (sv.claimsFor user now))
  else
    .error
      { code := .internalError, message := "cannot issue a token for an unsaved account" }

/-- Issues a token to the user of an account. -/
def issue (sv : TokenService) (now : Instant) (account : UserAccount) : Except Failure String :=
  sv.issueTo now account.id

/-! ## Resolving -/

/-- The members beside the claims have the form that a reader admits. -/
def hasKnownForm : Json → Bool
  | .object members =>
    isOptional "nbf" isSkippable members && isOptional "aud" isLegible members
  | _ => false

/-- The object names an audience. -/
def namesAudience : Json → Bool
  | .object members => (Json.valuesOf "aud" members).any isAudience
  | _ => false

/-- The user that claims stand for. -/
def userOf? (claims : Claims) : Option UserId :=
  match readIdentifier claims.subject.toList with
  | .error _ => none
  | .ok n => if n = 0 then none else some ⟨n⟩

/-- Checks the claims of a token: form, expiry, issuer, audience, then subject. -/
def checkClaims (sv : TokenService) (now : Instant) (v : Json) : Except Refusal UserId :=
  match Claims.ofJson? v with
  | none => .error .invalid
  | some claims =>
    if !hasKnownForm v || claims.expiry < 0 then .error .invalid
    else if claims.expiry < now.seconds - leeway then .error .expired
    else if claims.issuer ≠ sv.issuer || namesAudience v then .error .invalid
    else
      match userOf? claims with
      | none => .error .invalid
      | some user => .ok user

/-- The header of a token is one, and its signature is genuine. -/
def isGenuine (sv : TokenService) (head body signature : List Char) : Bool :=
  (readPart? head).any isHeader && sv.sign (head ++ '.' :: body) == signature

/-- Checks a token. -/
def check (sv : TokenService) (now : Instant) (token : List Char) : Except Refusal UserId :=
  match splitLast? token with
  | none => .error .invalid
  | some (message, signature) =>
    match splitLast? message with
    | none => .error .invalid
    | some (head, body) =>
      if sv.isGenuine head body signature then
        match readPart? body with
        | none => .error .invalid
        | some v => sv.checkClaims now v
      else .error .invalid

/-- The user that a token was issued to. -/
def resolve (sv : TokenService) (now : Instant) (token : String) : Except Failure UserId :=
  match sv.check now token.toList with
  | .error refusal => .error refusal.failure
  | .ok user => .ok user

end TokenService

end RecurringBilling
