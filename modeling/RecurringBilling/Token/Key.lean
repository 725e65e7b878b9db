import RecurringBilling.Token.Member

/-!
# Keys in headers

A header may carry a public key.  The key is not used, but it must have the form
of one: common members of the right types and the parameters of one family.
Whatever else it holds must be readable too.
-/

namespace RecurringBilling.Token

/-- Names of algorithms that a key may be meant for. -/
def keyAlgorithms : List String :=
  ["HS256", "HS384", "HS512", "ES256", "ES384", "RS256", "RS384", "RS512", "PS256", "PS384",
    "PS512", "EdDSA", "RSA1_5", "RSA-OAEP", "RSA-OAEP-256"]

/-- The algorithm that a key is meant for.  As the member of an object, its value
may be an empty object as well as `null`. -/
def isKeyAlgorithm : Json → Bool
  | .object [(name, .object [])] => keyAlgorithms.contains name
  | v => isCaseOf keyAlgorithms v

/-- Names of curves. -/
def curves : List String := ["P-256", "P-384", "P-521", "Ed25519"]

/-- The member occurs once and passes the test. -/
def isRequired (name : String) (test : Json → Bool) (members : List (String × Json)) : Bool :=
  (Json.sole? name members).any test

/-- The members that say what a key is for and where it comes from. -/
def hasCommonMembers (members : List (String × Json)) : Bool :=
  ["use", "kid", "x5u", "x5t", "x5t#S256"].all (fun name =>
      isOptional name (isNullOr isText) members)
    && ["key_ops", "x5c"].all (fun name => isOptional name (isNullOr isTextList) members)
    && isOptional "alg" (isNullOr isKeyAlgorithm) members

/-- The parameters of a family of keys: its name, whether there is a curve, and
the members that hold text. -/
structure KeyFamily where
  name : String
  hasCurve : Bool
  texts : List String

/-- The families of keys. -/
def keyFamilies : List KeyFamily :=
  [⟨"EC", true, ["x", "y"]⟩, ⟨"RSA", false, ["n", "e"]⟩, ⟨"oct", false, ["k"]⟩,
    ⟨"OKP", true, ["x"]⟩]

/-- The members are parameters of the family. -/
def KeyFamily.fits (family : KeyFamily) (members : List (String × Json)) : Bool :=
  isRequired "kty" (isCaseOf [family.name]) members
    && (!family.hasCurve || isRequired "crv" (isCaseOf curves) members)
    && family.texts.all fun name => isRequired name isText members

/-- The value has the form of a key. -/
def isKey : Json → Bool
  | .object members =>
    (memberFlaw? (.object members)).isNone && hasCommonMembers members
      && keyFamilies.any (·.fits members)
  | _ => false

end RecurringBilling.Token
