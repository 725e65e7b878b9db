import RecurringBilling.Proofs.Json.Members
import RecurringBilling.Proofs.Text.Base64
import RecurringBilling.Token.Service

/-!
# Which tokens are accepted

A token carries a value where its last two dots part it into a header that names the
algorithm in use, the value, and the signature of what stands before it.  A service finds a
user for a token exactly if the value that the token carries holds claims that are in force
at this service, for this user, and the dates and audiences beside the claims can be read.
Any other token is refused as unauthorized, and only one that is good up to its expiry is
said to have expired.
-/

namespace RecurringBilling

open RecurringBilling.Calendar RecurringBilling.Digest RecurringBilling.Text
open RecurringBilling.Token

/-! ## Claims -/

namespace Token

/-- The value holds the claims, each of them once and as a value of its type. -/
structure Claims.HeldBy (claims : Claims) (members : List (String × Json)) : Prop where
  subject : Json.valuesOf "sub" members = [.text claims.subject]
  issuer : Json.valuesOf "iss" members = [.text claims.issuer]
  issuedAt : Json.valuesOf "iat" members = [.integer claims.issuedAt]
  issuedAt_bounds : Json.minInteger ≤ claims.issuedAt ∧ claims.issuedAt ≤ Json.maxSigned
  expiry : Json.valuesOf "exp" members = [.integer claims.expiry]
  expiry_bounds : Json.minInteger ≤ claims.expiry ∧ claims.expiry ≤ Json.maxSigned

theorem Claims.ofJson?_eq_some_iff {v : Json} {claims : Claims} :
    Claims.ofJson? v = some claims ↔ ∃ members, v = .object members ∧ claims.HeldBy members := by
  cases v with
  | object members =>
    simp only [Claims.ofJson?, Option.pure_def, Option.bind_eq_bind, Option.bind_eq_some_iff,
      Option.some.injEq, Json.sole?_eq_some_iff, Json.text?_eq_some_iff, Json.signed?_eq_some_iff,
      Json.object.injEq, exists_eq_left']
    constructor
    · rintro ⟨subject, ⟨_, hsub, rfl⟩, issuer, ⟨_, hiss, rfl⟩, issuedAt, ⟨_, hiat, rfl, hiat'⟩,
        expiry, ⟨_, hexp, rfl, hexp'⟩, rfl⟩
      exact ⟨hsub, hiss, hiat, hiat', hexp, hexp'⟩
    · rintro ⟨hsub, hiss, hiat, hiat', hexp, hexp'⟩
      exact ⟨_, ⟨_, hsub, rfl⟩, _, ⟨_, hiss, rfl⟩, _, ⟨_, hiat, rfl, hiat'⟩, _,
        ⟨_, hexp, rfl, hexp'⟩, rfl⟩
  | _ => simp [Claims.ofJson?]

end Token

namespace TokenService

variable {sv : TokenService} {now : Instant} {v : Json} {claims : Claims} {user : UserId}

/-! ## Parts of a token -/

theorem splitLast?_append {message last : List Char} (hlast : '.' ∉ last) :
    splitLast? (message ++ '.' :: last) = some (message, last) := by
  have htake : (message ++ '.' :: last).reverse.takeWhile (· ≠ '.') = last.reverse := by
    have hall : ∀ c ∈ last.reverse, (decide (c ≠ '.')) = true := by
      intro c hc
      have hne : c ≠ '.' := fun h => hlast (h ▸ List.mem_reverse.mp hc)
      exact decide_eq_true hne
    rw [List.reverse_append, List.reverse_cons, List.append_assoc,
      List.takeWhile_append_of_pos hall]
    simp
  simp only [splitLast?, htake, List.reverse_reverse, List.length_append, List.length_cons]
  rw [if_neg (by omega), Option.some.injEq, Prod.mk.injEq, and_iff_left rfl]
  rw [show message.length + (last.length + 1) - last.length - 1 = message.length by omega]
  exact List.take_left

/-- A text is split at the dot with no dot behind it. -/
theorem splitLast?_eq_some_iff {s message last : List Char} :
    splitLast? s = some (message, last) ↔ s = message ++ '.' :: last ∧ '.' ∉ last := by
  constructor
  · intro h
    by_cases hdot : '.' ∈ s.reverse
    · obtain ⟨last', message', hs, hlast'⟩ := List.eq_append_cons_of_mem hdot
      have hs' : s = message'.reverse ++ '.' :: last'.reverse := by
        rw [← List.reverse_reverse s, hs]
        simp
      have hnot : '.' ∉ last'.reverse := by simpa using hlast'
      rw [hs', splitLast?_append hnot] at h
      cases h
      exact ⟨hs', hnot⟩
    · -- without a dot the last part is the whole text
      have hall : ∀ c ∈ s.reverse, (decide (c ≠ '.')) = true := by
        intro c hc
        have hne : c ≠ '.' := fun h => hdot (h ▸ hc)
        exact decide_eq_true hne
      simp only [splitLast?, List.takeWhile_eq_self_iff.mpr hall, List.reverse_reverse,
        if_true] at h
      cases h
  · rintro ⟨rfl, hlast⟩
    exact splitLast?_append hlast

/-- The token carries the value: its last two dots part it into a header that names the
algorithm in use, the value, and the signature of header and value. -/
def Carries (sv : TokenService) (token : List Char) (v : Json) : Prop :=
  ∃ head body signature, token = head ++ '.' :: body ++ '.' :: signature ∧
    '.' ∉ body ∧ '.' ∉ signature ∧
    (∃ header, readPart? head = some header ∧ isHeader header = true) ∧
    Base64.decode .url signature
      = some (Hmac.sha256 (Utf8.bytes sv.secret) (Utf8.encode (head ++ '.' :: body))) ∧
    readPart? body = some v

theorem isGenuine_iff {head body signature : List Char} :
    sv.isGenuine head body signature = true ↔
      (∃ header, readPart? head = some header ∧ isHeader header = true) ∧
      Base64.decode .url signature
        = some (Hmac.sha256 (Utf8.bytes sv.secret) (Utf8.encode (head ++ '.' :: body))) := by
  rw [isGenuine, Bool.and_eq_true, beq_iff_eq, Option.any_eq_true, Base64.decode_eq_some_iff, sign,
    eq_comm (a := signature)]

/-- What checking a token amounts to: its claims are checked if it carries any. -/
theorem check_of_carries {token : List Char} (h : sv.Carries token v) :
    sv.check now token = sv.checkClaims now v := by
  obtain ⟨head, body, signature, rfl, hbody, hsignature, hheader, hmac, hv⟩ := h
  have hgenuine := isGenuine_iff.mpr ⟨hheader, hmac⟩
  simp only [check, splitLast?_append hsignature, splitLast?_append hbody, hgenuine, hv, if_true]

theorem check_of_not_carries {token : List Char} (h : ∀ v, ¬sv.Carries token v) :
    sv.check now token = .error .invalid := by
  unfold check
  split
  · rfl
  · next message signature hsplit =>
    obtain ⟨rfl, hsignature⟩ := splitLast?_eq_some_iff.mp hsplit
    split
    · rfl
    · next head body hsplit =>
      obtain ⟨rfl, hbody⟩ := splitLast?_eq_some_iff.mp hsplit
      split
      · next hgenuine =>
        obtain ⟨hheader, hmac⟩ := isGenuine_iff.mp hgenuine
        split
        · rfl
        · next v hv =>
          exact absurd ⟨head, body, signature, rfl, hbody, hsignature, hheader, hmac, hv⟩ (h v)
      · rfl

/-! ## Signed tokens -/

/-- The token that carries a value, with the header in use and the signature of the service. -/
def signed (sv : TokenService) (v : Json) : String :=
  let message := writePart header ++ '.' :: writePart v
  String.ofList (message ++ '.' :: sv.sign message)

theorem tokenOf_eq_signed (claims : Claims) : sv.tokenOf claims = sv.signed claims.toJson := rfl

theorem readPart?_writePart (hv : v.isPlain = true) : readPart? (writePart v) = some v := by
  rw [readPart?, writePart, Base64.decode_encode, Option.bind_some, Json.readBytes?_write hv]

/-- A token carries the value that it was signed for, at every service with the same secret. -/
theorem carries_signed {sv' : TokenService} (hsecret : sv'.secret = sv.secret)
    (hv : v.isPlain = true) : sv'.Carries (sv.signed v).toList v := by
  refine ⟨writePart header, writePart v, sv.sign (writePart header ++ '.' :: writePart v), ?_,
    Base64.dot_not_mem_encode _, Base64.dot_not_mem_encode _,
    ⟨header, readPart?_writePart (by decide), by decide⟩, ?_, readPart?_writePart hv⟩
  · rw [signed, String.toList_ofList]
  · rw [hsecret, sign, Base64.decode_encode]

/-! ## Claims in force -/

theorem userOf?_eq_some_iff :
    userOf? claims = some user ↔
      Decimal.Denotes (trim claims.subject.toList) user.value ∧ user.value < identifierBound ∧
        user.value ≠ 0 := by
  have hread : ∀ n, readIdentifier claims.subject.toList = .ok n ↔
      Decimal.Denotes (trim claims.subject.toList) n ∧ n < identifierBound :=
    fun n => readIdentifier_eq_ok_iff
  rw [← and_assoc, ← hread]
  unfold userOf?
  cases h : readIdentifier claims.subject.toList with
  | error e => simp
  | ok n =>
    by_cases hn : n = 0
    · simp only [hn, if_true, Except.ok.injEq]
      constructor
      · intro hnone
        cases hnone
      · rintro ⟨hzero, hne⟩
        exact absurd hzero.symm hne
    · simp only [hn, if_false, Option.some.injEq, Except.ok.injEq]
      constructor
      · rintro rfl
        exact ⟨rfl, hn⟩
      · rintro ⟨rfl, -⟩
        rfl

/-- The dates and audiences beside the claims occur once at most and can be read to their
end. -/
def HasKnownMembers (members : List (String × Json)) : Prop :=
  isOptional "nbf" isSkippable members = true ∧ isOptional "aud" isLegible members = true

/-- The members hold the claims and pass whatever is checked before the expiry. -/
structure ReachExpiry (members : List (String × Json)) (claims : Claims) : Prop where
  held : claims.HeldBy members
  known : HasKnownMembers members
  nonneg : 0 ≤ claims.expiry

theorem hasKnownForm_iff :
    hasKnownForm v = true ↔ ∃ members, v = .object members ∧ HasKnownMembers members := by
  cases v <;> simp [hasKnownForm, HasKnownMembers]

theorem namesAudience_eq_false_iff {members : List (String × Json)} :
    namesAudience (.object members) = false ↔
      ∀ a ∈ Json.valuesOf "aud" members, isAudience a = false := by
  simp [namesAudience]

section Checks

variable {members : List (String × Json)}

theorem checkClaims_of_expired (h : ReachExpiry members claims)
    (hexpired : claims.expiry < now.seconds - leeway) :
    sv.checkClaims now (.object members) = .error .expired := by
  have hheld := Claims.ofJson?_eq_some_iff.mpr ⟨members, rfl, h.held⟩
  have hknown := hasKnownForm_iff.mpr ⟨members, rfl, h.known⟩
  have hnonneg : ¬claims.expiry < 0 := Int.not_lt.mpr h.nonneg
  simp [checkClaims, hheld, hknown, hnonneg, hexpired]

/-- Claims that have not expired are good for their user where they are in force. -/
theorem checkClaims_of_unexpired (h : ReachExpiry members claims)
    (hunexpired : now.seconds - leeway ≤ claims.expiry) :
    sv.checkClaims now (.object members) =
      if claims.issuer = sv.issuer ∧ namesAudience (.object members) = false then
        (userOf? claims).elim (.error .invalid) .ok
      else .error .invalid := by
  have hheld := Claims.ofJson?_eq_some_iff.mpr ⟨members, rfl, h.held⟩
  have hknown := hasKnownForm_iff.mpr ⟨members, rfl, h.known⟩
  have hnonneg : ¬claims.expiry < 0 := Int.not_lt.mpr h.nonneg
  have hexpired : ¬claims.expiry < now.seconds - leeway := Int.not_lt.mpr hunexpired
  simp only [checkClaims, hheld, hknown, hnonneg, hexpired, Bool.not_true, decide_false,
    Bool.or_false, Bool.false_eq_true, if_false]
  by_cases hforce : claims.issuer = sv.issuer ∧ namesAudience (.object members) = false
  · rw [if_neg (by simpa using hforce), if_pos hforce]
    cases userOf? claims <;> rfl
  · rw [if_pos (by simpa using Decidable.not_and_iff_not_or_not.mp hforce), if_neg hforce]

end Checks

theorem checkClaims_of_not_reachExpiry
    (h : ∀ members claims, v = .object members → ¬ReachExpiry members claims) :
    sv.checkClaims now v = .error .invalid := by
  unfold checkClaims
  split
  · rfl
  · next claims hclaims =>
    obtain ⟨members, rfl, hheld⟩ := Claims.ofJson?_eq_some_iff.mp hclaims
    rw [if_pos]
    by_contra hcheck
    simp only [Bool.or_eq_true, Bool.not_eq_true', decide_eq_true_eq, not_or, Bool.not_eq_false,
      Int.not_lt] at hcheck
    obtain ⟨_, hmembers, hknown⟩ := hasKnownForm_iff.mp hcheck.1
    cases hmembers
    exact h members claims rfl ⟨hheld, hknown, hcheck.2⟩

theorem checkClaims_eq_ok_iff :
    sv.checkClaims now v = .ok user ↔ ∃ members claims, v = .object members ∧
      ReachExpiry members claims ∧ now.seconds - leeway ≤ claims.expiry ∧
      claims.issuer = sv.issuer ∧ namesAudience v = false ∧ userOf? claims = some user := by
  constructor
  · intro hok
    by_cases hreach : ∃ members claims, v = .object members ∧ ReachExpiry members claims
    · obtain ⟨members, claims, rfl, hclaims⟩ := hreach
      by_cases hexpired : claims.expiry < now.seconds - leeway
      · rw [checkClaims_of_expired hclaims hexpired] at hok
        cases hok
      · have hunexpired := Int.not_lt.mp hexpired
        rw [checkClaims_of_unexpired hclaims hunexpired] at hok
        split at hok
        · next hforce =>
          refine ⟨members, claims, rfl, hclaims, hunexpired, hforce.1, hforce.2, ?_⟩
          cases huser : userOf? claims with
          | none =>
            rw [huser] at hok
            cases hok
          | some user' =>
            rw [huser] at hok
            cases hok
            rfl
        · cases hok
    · rw [checkClaims_of_not_reachExpiry fun members claims hv hclaims =>
        hreach ⟨members, claims, hv, hclaims⟩] at hok
      cases hok
  · rintro ⟨members, claims, rfl, hclaims, hunexpired, hissuer, haudience, huser⟩
    rw [checkClaims_of_unexpired hclaims hunexpired, if_pos ⟨hissuer, haudience⟩, huser]
    rfl

theorem checkClaims_eq_expired_iff :
    sv.checkClaims now v = .error .expired ↔ ∃ members claims, v = .object members ∧
      ReachExpiry members claims ∧ claims.expiry < now.seconds - leeway := by
  constructor
  · intro hexpired
    by_cases hreach : ∃ members claims, v = .object members ∧ ReachExpiry members claims
    · obtain ⟨members, claims, rfl, hclaims⟩ := hreach
      refine ⟨members, claims, rfl, hclaims, ?_⟩
      by_contra hunexpired
      rw [checkClaims_of_unexpired hclaims (Int.not_lt.mp hunexpired)] at hexpired
      -- what is checked later is refused for another reason
      split at hexpired
      · cases huser : userOf? claims <;> rw [huser] at hexpired <;> cases hexpired
      · cases hexpired
    · rw [checkClaims_of_not_reachExpiry fun members claims hv hclaims =>
        hreach ⟨members, claims, hv, hclaims⟩] at hexpired
      cases hexpired
  · rintro ⟨members, claims, rfl, hclaims, hexpired⟩
    exact checkClaims_of_expired hclaims hexpired

/-! ## Resolving -/

theorem resolve_eq_ok_iff {token : String} :
    sv.resolve now token = .ok user ↔ sv.check now token.toList = .ok user := by
  unfold resolve
  split
  · next refusal hcheck => simp [hcheck]
  · next user' hcheck => simp [hcheck]

theorem resolve_eq_error_iff {token : String} {failure : Failure} :
    sv.resolve now token = .error failure ↔
      ∃ refusal, sv.check now token.toList = .error refusal ∧ failure = refusal.failure := by
  unfold resolve
  split
  · next refusal hcheck => simp [hcheck, eq_comm]
  · next user' hcheck => simp [hcheck]

/-- Unless a token is invalid, the claims that it carries decide what becomes of it. -/
theorem check_eq_iff {token : List Char} {r : Except Refusal UserId} (hr : r ≠ .error .invalid) :
    sv.check now token = r ↔ ∃ v, sv.Carries token v ∧ sv.checkClaims now v = r := by
  constructor
  · intro hcheck
    by_cases hcarries : ∃ v, sv.Carries token v
    · obtain ⟨v, hv⟩ := hcarries
      exact ⟨v, hv, by rw [← check_of_carries hv, hcheck]⟩
    · rw [check_of_not_carries (not_exists.mp hcarries)] at hcheck
      exact absurd hcheck.symm hr
  · rintro ⟨v, hv, hclaims⟩
    rw [check_of_carries hv, hclaims]

/-- The token is good for the user: it carries claims of this service, which have not expired
and are for no audience, and the user is their subject. -/
structure IsGood (sv : TokenService) (now : Instant) (token : String) (user : UserId)
    (members : List (String × Json)) (claims : Claims) : Prop where
  carried : sv.Carries token.toList (.object members)
  held : claims.HeldBy members
  expiry_nonneg : 0 ≤ claims.expiry
  unexpired : now.seconds - leeway ≤ claims.expiry
  issuer : claims.issuer = sv.issuer
  audience : ∀ v ∈ Json.valuesOf "aud" members, isAudience v = false
  subject : Decimal.Denotes (trim claims.subject.toList) user.value
  subject_lt : user.value < Decimal.bound64
  subject_ne : user.value ≠ 0

/-- Exactly the good tokens are resolved, to the user that they are good for, where the dates
and audiences beside their claims can be read.  Any other token is unauthorized, and it is said
to have expired exactly if it carries claims that pass every check before that of the expiry,
and fail this one. -/
theorem resolves_exactly_good_tokens (sv : TokenService) (now : Instant) (token : String) :
    (∀ user, sv.resolve now token = .ok user ↔
      ∃ members claims, sv.IsGood now token user members claims ∧ HasKnownMembers members) ∧
    (∀ failure, sv.resolve now token = .error failure →
      failure.code = .unauthorized ∧
      (failure.message = "token expired" ↔
        ∃ members claims, sv.Carries token.toList (.object members) ∧
          ReachExpiry members claims ∧ claims.expiry < now.seconds - leeway)) := by
  constructor
  · intro user
    rw [resolve_eq_ok_iff, check_eq_iff (by simp)]
    simp only [checkClaims_eq_ok_iff, userOf?_eq_some_iff]
    constructor
    · rintro ⟨_, hcarried, members, claims, rfl, hreach, hunexpired, hissuer, haudience, hsubject,
        hlt, hne⟩
      exact ⟨members, claims, ⟨hcarried, hreach.held, hreach.nonneg, hunexpired, hissuer,
        namesAudience_eq_false_iff.mp haudience, hsubject, hlt, hne⟩, hreach.known⟩
    · rintro ⟨members, claims, hgood, hknown⟩
      exact ⟨_, hgood.carried, members, claims, rfl, ⟨hgood.held, hknown, hgood.expiry_nonneg⟩,
        hgood.unexpired, hgood.issuer, namesAudience_eq_false_iff.mpr hgood.audience,
        hgood.subject, hgood.subject_lt, hgood.subject_ne⟩
  · intro failure hfailure
    obtain ⟨refusal, hcheck, rfl⟩ := resolve_eq_error_iff.mp hfailure
    refine ⟨by cases refusal <;> rfl, ?_⟩
    have hmessage : refusal.failure.message = "token expired" ↔
        sv.check now token.toList = .error .expired := by
      rw [hcheck]
      cases refusal <;> simp [Refusal.failure]
    rw [hmessage, check_eq_iff (by simp)]
    simp only [checkClaims_eq_expired_iff]
    constructor
    · rintro ⟨_, hcarried, members, claims, rfl, hreach, hexpired⟩
      exact ⟨members, claims, hcarried, hreach, hexpired⟩
    · rintro ⟨members, claims, hcarried, hreach, hexpired⟩
      exact ⟨_, hcarried, members, claims, rfl, hreach, hexpired⟩

/-! ## A date that is not passed over -/

/-- A service whose tokens run for an hour. -/
def hourly : TokenService :=
  { secret := "integration-test-secret-of-32-bytes!", issuer := "subscription-billing",
    lifetime := 3600 }

/-- The claims of a token for ten minutes, beside a list where a date is expected. -/
def listDated : List (String × Json) :=
  [("sub", .text "7"), ("iss", .text "subscription-billing"), ("iat", .integer 1704067200),
    ("exp", .integer 1704067800), ("nbf", .list [.integer 0])]

/-- A token can be good and be refused all the same, for a date that is not even looked at. -/
theorem good_token_refused_for_list_date :
    let now : Instant := ⟨1704067200, 0, by decide, by decide⟩
    let token := hourly.signed (.object listDated)
    hourly.IsGood now token ⟨7⟩ listDated ⟨"7", "subscription-billing", 1704067200, 1704067800⟩ ∧
      hourly.resolve now token
        = .error { code := .unauthorized, message := "invalid token" } := by
  intro now token
  have hcarried : hourly.Carries token.toList (.object listDated) := carries_signed rfl (by decide)
  have hcheck : hourly.checkClaims now (.object listDated) = .error .invalid := by decide +kernel
  have hheld : Claims.HeldBy ⟨"7", "subscription-billing", 1704067200, 1704067800⟩ listDated :=
    ⟨rfl, rfl, rfl, by decide, rfl, by decide⟩
  have hsubject : Decimal.Denotes (trim "7".toList) 7 :=
    ⟨['7'], by decide, List.all_eq_true.mp rfl, by decide, .inl (by decide)⟩
  refine ⟨⟨hcarried, hheld, by decide, by decide, rfl, by decide, hsubject, by decide,
    by decide⟩, ?_⟩
  rw [resolve_eq_error_iff]
  exact ⟨.invalid, by rw [check_of_carries hcarried, hcheck], rfl⟩

end TokenService

end RecurringBilling
