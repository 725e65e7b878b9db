import RecurringBilling.Token.Key

/-!
# Token headers

The header of a token names the algorithm of its signature; the only one in use
is HS256.  Other known members must have their types, unknown ones are passed
over.
-/

namespace RecurringBilling.Token

/-- The algorithm of every signature. -/
def algorithm : String := "HS256"

/-- The header of every token that is issued. -/
def header : Json := .object [("typ", .text "JWT"), ("alg", .text algorithm)]

/-- The members other than the algorithm that a header may have. -/
def headerMembers : List (String × (Json → Bool)) :=
  [("typ", isText), ("cty", isText), ("jku", isText), ("jwk", isKey), ("kid", isText),
    ("x5u", isText), ("x5c", isTextList), ("x5t", isText), ("x5t#S256", isText)]

/-- The value is a header that names the algorithm in use.  A list is read as the
members of a header in their order, the algorithm second. -/
def isHeader : Json → Bool
  | .object members =>
    isRequired "alg" (isCaseOf [algorithm]) members
      && headerMembers.all fun (name, test) => isOptional name (isNullOr test) members
  | .list (typ :: alg :: rest) =>
    isCaseOf [algorithm] alg
      && (typ :: rest).length == headerMembers.length
      && (headerMembers.zip (typ :: rest)).all fun ((_, test), v) => isNullOr test v
  | _ => false

end RecurringBilling.Token
