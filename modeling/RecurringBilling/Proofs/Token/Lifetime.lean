import RecurringBilling.Proofs.Token.Acceptance

/-!
# How long an issued token is good

A token is issued to the user of every account that has been stored.  The services that
share the secret and the issuer resolve it to this user until a minute after its expiry, and
refuse it as expired from then on.
-/

namespace RecurringBilling

open RecurringBilling.Calendar RecurringBilling.Text
open RecurringBilling.Token

namespace Token.Claims

/-- Claims with 64-bit integers are written as members that hold them, and nothing else. -/
theorem toJson_eq_object (claims : Claims)
    (hissuedAt : Json.minInteger ≤ claims.issuedAt ∧ claims.issuedAt ≤ Json.maxSigned)
    (hexpiry : 0 ≤ claims.expiry ∧ claims.expiry ≤ Json.maxSigned) :
    ∃ members, claims.toJson = .object members ∧ TokenService.ReachExpiry members claims ∧
      TokenService.namesAudience (.object members) = false ∧
      Json.isPlain (.object members) = true := by
  have hmin : Json.minInteger ≤ 0 := by decide
  have hmax : Json.maxSigned ≤ Json.maxInteger := by decide
  have hheld : claims.HeldBy
      [("sub", .text claims.subject), ("iss", .text claims.issuer),
        ("iat", .integer claims.issuedAt), ("exp", .integer claims.expiry)] :=
    ⟨rfl, rfl, rfl, hissuedAt, rfl, Int.le_trans hmin hexpiry.1, hexpiry.2⟩
  refine ⟨_, rfl, ⟨hheld, ⟨rfl, rfl⟩, hexpiry.1⟩, rfl, ?_⟩
  simp only [Json.isPlain, Json.haveOnlyPlain, Bool.and_true, Bool.true_and, Bool.and_eq_true,
    decide_eq_true_eq]
  omega

end Token.Claims

namespace TokenService

variable (sv : TokenService) {sv' : TokenService}

theorem claimsFor_issuedAt_bounds (user : UserId) (now : Instant) :
    Json.minInteger ≤ (sv.claimsFor user now).issuedAt ∧
      (sv.claimsFor user now).issuedAt ≤ Json.maxSigned := by
  have hrange := now.representable
  simp only [Representable, minSecond, maxSecond] at hrange
  simp only [claimsFor, Json.minInteger, Json.maxSigned]
  omega

theorem claimsFor_expiry_le (user : UserId) (now : Instant) :
    (sv.claimsFor user now).expiry ≤ Json.maxSigned := by
  simp only [claimsFor, latestExpiry]
  omega

theorem claimsFor_expiry_nonneg (user : UserId) {now : Instant} (hnow : 0 ≤ now.seconds) :
    0 ≤ (sv.claimsFor user now).expiry := by
  simp only [claimsFor, latestExpiry, Json.maxSigned]
  omega

theorem userOf?_claimsFor {user : UserId} (hlt : user.value < Decimal.bound64)
    (hne : user.value ≠ 0) (now : Instant) : userOf? (sv.claimsFor user now) = some user := by
  have hread : readIdentifier (sv.claimsFor user now).subject.toList = .ok user.value := by
    rw [claimsFor, UserId.numeral, Decimal.numeral, String.toList_ofList]
    exact readIdentifier_write hlt
  rw [userOf?, hread]
  exact if_neg hne

/-- What an issued token with an expiry that can be read is resolved to by a service with the same
secret and issuer. -/
theorem resolve_tokenOf_of_expiry (hsecret : sv'.secret = sv.secret)
    (hissuer : sv'.issuer = sv.issuer) {user : UserId} (hlt : user.value < Decimal.bound64)
    (hne : user.value ≠ 0) {issued : Instant} (hexpiry : 0 ≤ (sv.claimsFor user issued).expiry)
    (now : Instant) :
    sv'.resolve now (sv.tokenOf (sv.claimsFor user issued))
      = if now.seconds - leeway ≤ (sv.claimsFor user issued).expiry then .ok user
        else .error Refusal.expired.failure := by
  obtain ⟨members, hjson, hreach, haudience, hplain⟩ :=
    (sv.claimsFor user issued).toJson_eq_object (sv.claimsFor_issuedAt_bounds user issued)
      ⟨hexpiry, sv.claimsFor_expiry_le user issued⟩
  have hcarried : sv'.Carries (sv.tokenOf (sv.claimsFor user issued)).toList (.object members) := by
    rw [tokenOf_eq_signed, hjson]
    exact carries_signed hsecret hplain
  by_cases hunexpired : now.seconds - leeway ≤ (sv.claimsFor user issued).expiry
  · rw [if_pos hunexpired, resolve_eq_ok_iff, check_of_carries hcarried,
      checkClaims_of_unexpired hreach hunexpired, if_pos ⟨hissuer.symm, haudience⟩,
      sv.userOf?_claimsFor hlt hne]
    rfl
  · rw [if_neg hunexpired, resolve_eq_error_iff]
    refine ⟨.expired, ?_, rfl⟩
    rw [check_of_carries hcarried, checkClaims_of_expired hreach (Int.not_le.mp hunexpired)]

/-- A token that is issued at or after the epoch has an expiry that can be read. -/
theorem resolve_tokenOf (hsecret : sv'.secret = sv.secret) (hissuer : sv'.issuer = sv.issuer)
    {user : UserId} (hlt : user.value < Decimal.bound64) (hne : user.value ≠ 0) {issued : Instant}
    (hissued : 0 ≤ issued.seconds) (now : Instant) :
    sv'.resolve now (sv.tokenOf (sv.claimsFor user issued))
      = if now.seconds - leeway ≤ (sv.claimsFor user issued).expiry then .ok user
        else .error Refusal.expired.failure :=
  sv.resolve_tokenOf_of_expiry hsecret hissuer hlt hne (sv.claimsFor_expiry_nonneg user hissued) now

/-- A stored account is issued a token that is resolved to its user for exactly its lifetime,
and a minute longer.  An account that has not been stored gets none. -/
theorem issued_token_resolves_for_lifetime (sv sv' : TokenService)
    (hsecret : sv'.secret = sv.secret) (hissuer : sv'.issuer = sv.issuer) (account : UserAccount)
    (hid : account.id.value < Decimal.bound64) (issued : Instant) (hissued : 60 ≤ issued.seconds) :
    (account.id.value = 0 → sv.issue issued account = .error
      { code := .internalError, message := "cannot issue a token for an unsaved account" }) ∧
    (account.id.value ≠ 0 → ∃ token, sv.issue issued account = .ok token ∧
      let expiry := min (issued.seconds + min (sv.lifetime : Int) Json.maxSigned) Json.maxSigned
      ∀ now : Instant,
        (now.seconds - 60 ≤ expiry → sv'.resolve now token = .ok account.id) ∧
        (expiry < now.seconds - 60 → sv'.resolve now token = .error
          { code := .unauthorized, message := "token expired" })) := by
  constructor
  · intro hzero
    simp [issue, issueTo, UserId.isAssigned, hzero]
  · intro hne
    refine ⟨sv.tokenOf (sv.claimsFor account.id issued), ?_, ?_⟩
    · simp [issue, issueTo, UserId.isAssigned, hne]
    · intro expiry now
      rw [resolve_tokenOf sv hsecret hissuer hid hne (Int.le_trans (by decide) hissued)]
      constructor
      · exact fun hunexpired => if_pos hunexpired
      · exact fun hexpired => if_neg (Int.not_le.mpr hexpired)

/-- A token of an hour, issued under a name with a quote, a backslash and a line break, is
good for sixty-one minutes. -/
theorem hour_under_escaped_issuer :
    let sv : TokenService :=
      { secret := "secret", issuer := "the \"desk\" \\ 1\n", lifetime := 3600 }
    let account : UserAccount :=
      ⟨⟨7⟩, ⟨"Ada", by decide +kernel⟩, ⟨"ada@example.com", by decide +kernel⟩, "hash", true,
        .epoch, .epoch⟩
    ∃ token, sv.issue ⟨60, 0, by decide, by decide⟩ account = .ok token ∧
      sv.resolve ⟨3720, 0, by decide, by decide⟩ token = .ok ⟨7⟩ ∧
      sv.resolve ⟨3721, 0, by decide, by decide⟩ token
        = .error { code := .unauthorized, message := "token expired" } := by
  intro sv account
  obtain ⟨token, htoken, hresolve⟩ :=
    (issued_token_resolves_for_lifetime sv sv rfl rfl account (by decide)
      ⟨60, 0, by decide, by decide⟩ (by decide)).2 (by decide)
  exact ⟨token, htoken, (hresolve ⟨3720, 0, by decide, by decide⟩).1 (by decide),
    (hresolve ⟨3721, 0, by decide, by decide⟩).2 (by decide)⟩

end TokenService

end RecurringBilling
