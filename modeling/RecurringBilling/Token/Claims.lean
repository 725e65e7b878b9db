import RecurringBilling.Token.Member

/-!
# Claims

The claims of a token say whom it stands for, who issued it, when, and until
when.  An audience, if there is one that can be read, is refused by whoever
resolves the token; a date before which the token is not valid is passed over.
Where the reading of either breaks off before its end, what follows makes no sense
any more, and the claims are refused as a whole.
-/

namespace RecurringBilling.Token

/-- The claims of a token. -/
structure Claims where
  subject : String
  issuer : String
  issuedAt : Int
  expiry : Int
  deriving DecidableEq, Repr

namespace Claims

/-- The claims in JSON. -/
def toJson (c : Claims) : Json :=
  .object
    [("sub", .text c.subject), ("iss", .text c.issuer), ("iat", .integer c.issuedAt),
      ("exp", .integer c.expiry)]

/-- Reads the claims from JSON.  Each must occur exactly once. -/
def ofJson? : Json → Option Claims
  | .object members => do
    let subject ← (Json.sole? "sub" members).bind Json.text?
    let issuer ← (Json.sole? "iss" members).bind Json.text?
    let issuedAt ← (Json.sole? "iat" members).bind Json.signed?
    let expiry ← (Json.sole? "exp" members).bind Json.signed?
    return { subject, issuer, issuedAt, expiry }
  | _ => none

end Claims

/-- A date that can be passed over.  A list or object is not looked into, so that
only an empty one comes to its end. -/
def isSkippable : Json → Bool
  | .list items => items.isEmpty
  | .object members => members.isEmpty
  | .flawed flaw => flaw == .atEnd
  | _ => true

/-- An audience whose reading comes to its end, whether it breaks off there or
not. -/
def isLegible (v : Json) : Bool := memberFlaw? v != some .inside

/-- An audience: one name or a list of names. -/
def isAudience (v : Json) : Bool := isText v || isTextList v

end RecurringBilling.Token
