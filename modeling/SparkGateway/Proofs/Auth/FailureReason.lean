import Mathlib.Data.List.Infix
import SparkGateway.Lib.History
import SparkGateway.Proofs.Auth.StaticToken
import SparkGateway.Spec.Handler
import SparkGateway.Spec.JwtAuth

/-!
# `SparkGateway.Proofs.Auth.FailureReason`: when the reason of a refusal names its cause

The metric and the audit log give a reason for every refused request. The handler reads it off
the text of the status, by the words that the text contains. `NamesCause` says what the reason
should be in terms of what happened: no credential, an expired signature, a `kid` without a key
in the JWKS, or any other refused token.

The texts do not carry this much. An expired signature has the text of every other error of
`decode`, and the texts for a token without a `kid` and for claims without a user id contain the
word `missing`, as the text for a request without a credential does. `namesCause_iff` says that
these three are all that goes wrong.
-/

set_option autoImplicit false

namespace SparkGateway.Proofs.Auth

open SparkGateway.Lib
open SparkGateway.Spec

/-! ### What happened -/

/-- The request has no credential. -/
def NoCredential (metadata : MetadataMap) : Prop := bearerToken metadata = .ok none

/-- The replies of the JWKS cache for a `kid`. -/
def cachedReplies (kid : String) (trace : List (Event OidcSig)) : List (Option DecodingKey) :=
  trace.filterMap fun
    | ⟨.cached asked, reply⟩ => if asked = kid then some reply else none
    | _ => none

/-- What the JWKS had for the `kid` when it was looked up last. -/
def lastKey (kid : String) (trace : List (Event OidcSig)) : Option (Option DecodingKey) :=
  (cachedReplies kid trace).getLast?

/-- The times that `decode` has read. -/
def timestamps (trace : List (Event OidcSig)) : List ℕ :=
  trace.filterMap fun
    | ⟨.timestamp, now⟩ => some now
    | _ => none

/-- The time at which the token was decoded. -/
def decodedAt (trace : List (Event OidcSig)) : Option ℕ := (timestamps trace).getLast?

section
variable (lib : Jsonwebtoken) (metadata : MetadataMap) (trace : List (Event OidcSig))

/-- The credential is a token with this `kid`. -/
def HasKid (token kid : String) : Prop :=
  bearerToken metadata = .ok (some token) ∧
    ∃ header, lib.decodeHeader token = .ok header ∧ header.kid = some kid

/-- The token was refused with the expired-signature error. -/
def RefusedExpired : Authenticator → Prop
  | .staticToken _ _ => False
  | .jwt auth => ∃ token now, bearerToken metadata = .ok (some token) ∧
      decodedAt trace = some now ∧
      lib.decode now token auth.decodingKey auth.validation = .error .expiredSignature
  | .oidc auth => ∃ token, bearerToken metadata = .ok (some token) ∧
      (lib.decodeHeader token = .error .expiredSignature ∨
        ∃ kid key now, HasKid lib metadata token kid ∧ lastKey kid trace = some (some key) ∧
          decodedAt trace = some now ∧
          lib.decode now token (.jwks key) auth.validation = .error .expiredSignature)

/-- The `kid` of the token has no key in the JWKS. -/
def UnknownKid : Authenticator → Prop
  | .staticToken _ _ => False
  | .jwt _ => False
  | .oidc _ => ∃ token kid, HasKid lib metadata token kid ∧ lastKey kid trace = some none

/-- The token has no `kid` and needs one. -/
def LacksKid : Authenticator → Prop
  | .staticToken _ _ => False
  | .jwt _ => False
  | .oidc _ => ∃ token header, bearerToken metadata = .ok (some token) ∧
      lib.decodeHeader token = .ok header ∧ header.kid = none

/-- The token is valid, and its claims have no user id. -/
def LacksUserId : Authenticator → Prop
  | .staticToken _ _ => False
  | .jwt auth => ∃ token now claims, bearerToken metadata = .ok (some token) ∧
      decodedAt trace = some now ∧
      lib.decode now token auth.decodingKey auth.validation = .ok claims ∧
      auth.userId claims = none
  | .oidc auth => ∃ token kid key now claims, HasKid lib metadata token kid ∧
      lastKey kid trace = some (some key) ∧ decodedAt trace = some now ∧
      lib.decode now token (.jwks key) auth.validation = .ok claims ∧ auth.userId claims = none

/-- The reason of the status names what happened. -/
def NamesCause (authn : Authenticator) (status : Status) : Prop :=
  (authFailureReason status = "missing_token" ↔ NoCredential metadata) ∧
  (authFailureReason status = "expired" ↔ RefusedExpired lib metadata trace authn) ∧
  (authFailureReason status = "unknown_kid" ↔ UnknownKid lib metadata trace authn) ∧
  (¬ NoCredential metadata → ¬ RefusedExpired lib metadata trace authn →
    ¬ UnknownKid lib metadata trace authn → authFailureReason status = "invalid_token")

end

/-! ### The reasons of the texts -/

/-- `contains`, as an infix of the characters. -/
theorem containsText_iff (text part : String) :
    containsText text part = true ↔ part.toList <:+: text.toList := by
  unfold containsText
  rw [List.any_eq_true, List.infix_iff_prefix_suffix]
  simp only [List.mem_tails, List.isPrefixOf_iff_prefix, and_comm]

/-- The message of a missing token is labelled as such. -/
theorem reason_missingToken : authFailureReason missingToken = "missing_token" := by
  decide +kernel

/-- The message of an unknown static token is labelled as an invalid token. -/
theorem reason_invalidToken :
    authFailureReason (Status.unauthenticated "invalid token") = "invalid_token" := by
  decide +kernel

/-- The message of a JWT that fails verification is labelled as an invalid token. -/
theorem reason_invalidJwt :
    authFailureReason (Status.unauthenticated "invalid JWT") = "invalid_token" := by
  decide +kernel

/-- The message of a JWT with a malformed header is labelled as an invalid token. -/
theorem reason_invalidHeader :
    authFailureReason (Status.unauthenticated "invalid JWT header") = "invalid_token" := by
  decide +kernel

/-- The message of a JWT without a kid is labelled as a missing token. -/
theorem reason_lacksKid :
    authFailureReason (Status.unauthenticated "JWT missing kid; OIDC requires keyed JWTs")
      = "missing_token" := by
  decide +kernel

/-- The message of a kid that is not in the JWKS is labelled as such. -/
theorem reason_unknownKid :
    authFailureReason (Status.unauthenticated "JWT kid not in JWKS") = "unknown_kid" := by
  decide +kernel

/-- Whatever the name of the claim, the text has `missing` in it. -/
theorem reason_lacksUserId (claim : String) :
    authFailureReason (Status.unauthenticated ("JWT missing required claim " ++ debugStr claim))
      = "missing_token" := by
  have hmissing : containsText ("JWT missing required claim " ++ debugStr claim) "missing"
      = true := by
    rw [containsText_iff, String.toList_append]
    have htext : "missing".toList <:+: "JWT missing required claim ".toList :=
      ⟨"JWT ".toList, " required claim ".toList, by decide⟩
    exact htext.trans (List.prefix_append _ _).isInfix
  exact if_pos hmissing

/-! ### The JWKS lookup -/

/-- The last lookup of the kid is the one that counts. -/
theorem lastKey_cached (kid : String) (es : List (Event OidcSig)) (key : Option DecodingKey) :
    lastKey kid (es ++ [⟨.cached kid, key⟩]) = some key := by
  simp [lastKey, cachedReplies]

/-- The last reading of the time is the one that counts. -/
theorem decodedAt_timestamp (es : List (Event OidcSig)) (now : ℕ) :
    decodedAt (es ++ [⟨.timestamp, now⟩]) = some now := by
  simp [decodedAt, timestamps]

/-- The command looks up a key in the cache. -/
def isLookup : OidcCmd → Bool
  | .cached _ => true
  | _ => false

/-- Other commands leave the last lookup as it is. -/
theorem lastKey_other {kid : String} {es : List (Event OidcSig)} {c : OidcCmd}
    {r : OidcSig.Reply c} {key : Option DecodingKey} (hc : isLookup c = false)
    (h : lastKey kid es = some key) : lastKey kid (es ++ [⟨c, r⟩]) = some key := by
  unfold lastKey cachedReplies at h ⊢
  rw [List.filterMap_append]
  cases c with
  | cached asked => cases hc
  | _ => simpa using h

/-- Every path of the program satisfies `Q` in the end. -/
abbrev Returns {α : Type} (Q : List (Event OidcSig) → α → Prop) (p : Prog OidcSig α) : Prop :=
  p.Obeys (fun _ => True) (fun _ _ => True) Q []

/-- `key_for` returns what the last lookup found. -/
theorem keyFor_returns (parsers : KeyParsers) (auth : OidcAuthenticator) (kid : String) :
    Returns (fun es key => lastKey kid es = some key) (auth.keyFor parsers kid) := by
  refine ⟨trivial, ?_⟩
  rintro (_ | key) -
  · refine ⟨trivial, fun _ _ => ⟨trivial, ?_⟩⟩
    rintro (_ | key) -
    · refine ⟨trivial, ?_⟩
      rintro (elapsed : ℕ) -
      show Prog.Obeys _ _ _ (if elapsed < auth.refreshFloor then _ else _) _
      split
      · refine ⟨trivial, fun r _ => ?_⟩
        exact lastKey_other rfl (lastKey_other rfl (lastKey_cached kid _ none))
      · refine ⟨trivial, fun request _ => ⟨trivial, ?_⟩⟩
        rintro (reply : JwksReply) -
        show Prog.Obeys _ _ _ (.ret (reply.keys parsers auth.jwksUrl) >>= _) _
        cases reply.keys parsers auth.jwksUrl with
        | error e =>
          refine ⟨trivial, fun r _ => ?_⟩
          exact lastKey_other rfl (lastKey_other rfl (lastKey_other rfl (lastKey_other rfl
            (lastKey_cached kid _ none))))
        | ok keys =>
          -- The new keys are looked up once more.
          refine ⟨trivial, fun _ _ => ⟨trivial, fun _ _ => ⟨trivial, fun key _ => ?_⟩⟩⟩
          exact lastKey_cached kid _ key
    · refine ⟨trivial, fun r _ => ?_⟩
      exact lastKey_other rfl (lastKey_cached kid _ (some key))
  · exact lastKey_cached kid [] (some key)

/-! ### The authenticators -/

/-- The reason names the cause, unless it is one of the three. -/
def Judged (lib : Jsonwebtoken) (metadata : MetadataMap) (authn : Authenticator)
    (trace : List (Event OidcSig)) (result : Except AuthFailure Identity) : Prop :=
  ∀ status, result = .error (.refused status) →
    (NamesCause lib metadata trace authn status ↔
      ¬ RefusedExpired lib metadata trace authn ∧ ¬ LacksKid lib metadata authn ∧
        ¬ LacksUserId lib metadata trace authn)

section
variable {lib : Jsonwebtoken} {metadata : MetadataMap} {trace : List (Event OidcSig)}

/-- A refusal is judged by its own status. -/
theorem judged_refused {authn : Authenticator} {status : Status}
    (h : NamesCause lib metadata trace authn status ↔
      ¬ RefusedExpired lib metadata trace authn ∧ ¬ LacksKid lib metadata authn ∧
        ¬ LacksUserId lib metadata trace authn) :
    Judged lib metadata authn trace (.error (.refused status)) := by
  intro status' heq
  cases heq
  exact h

/-- An accepted call has no refusal to judge. -/
theorem judged_ok {authn : Authenticator} (id : Identity) :
    Judged lib metadata authn trace (.ok id) := by
  intro status heq
  cases heq

/-- A request with a token has a credential. -/
theorem hasCredential {token : String} (htoken : bearerToken metadata = .ok (some token)) :
    ¬ NoCredential metadata := by
  simp [NoCredential, htoken]

/-- The reason `invalid_token` is wrong for an expired signature only, if none of the others
applies. -/
theorem judged_invalid {authn : Authenticator} {status : Status}
    (hcredential : ¬ NoCredential metadata)
    (hreason : authFailureReason status = "invalid_token")
    (hunknown : ¬ UnknownKid lib metadata trace authn) (hkid : ¬ LacksKid lib metadata authn)
    (huser : ¬ LacksUserId lib metadata trace authn) :
    Judged lib metadata authn trace (.error (.refused status)) := by
  refine judged_refused ?_
  simp [NamesCause, hreason, hcredential, hunknown, hkid, huser]

/-- A request without a credential is refused as such by each of them. -/
theorem judged_missing (authn : Authenticator) (h : bearerToken metadata = .ok none) :
    Judged lib metadata authn trace (.error (.refused missingToken)) := by
  refine judged_refused ?_
  cases authn with
  | staticToken auth iteration =>
    simp [NamesCause, NoCredential, RefusedExpired, UnknownKid, LacksKid, LacksUserId, h,
      reason_missingToken]
  | jwt auth =>
    simp [NamesCause, NoCredential, RefusedExpired, UnknownKid, LacksKid, LacksUserId, h,
      reason_missingToken]
  | oidc auth =>
    simp [NamesCause, NoCredential, RefusedExpired, UnknownKid, LacksKid, LacksUserId, HasKid, h,
      reason_missingToken]

/-- The refusals of the static table name their cause. -/
theorem judged_staticToken (auth : StaticTokenAuthenticator) (iteration : auth.inner.Iteration) :
    Judged lib metadata (.staticToken auth iteration) trace
      (auth.authenticate iteration metadata) := by
  obtain ⟨token?, htoken⟩ := bearerToken_ok metadata
  cases token? with
  | none =>
    rw [authenticate_of_none htoken]
    exact judged_missing _ htoken
  | some token =>
    cases hlookup : StaticTokenAuthenticator.lookup iteration.1 token with
    | some tmpl =>
      rw [authenticate_of_hit htoken hlookup]
      exact judged_ok _
    | none =>
      rw [authenticate_of_miss htoken hlookup]
      exact judged_invalid (hasCredential htoken) reason_invalidToken id id id

/-- The end of both authenticators: the token is refused as invalid, or its claims have no user
id. -/
theorem judged_verify {token : String} (htoken : bearerToken metadata = .ok (some token))
    {authn : Authenticator} {names : ClaimNames} {key : VerificationKey} {validation : Validation}
    {now : ℕ} (hunknown : ¬ UnknownKid lib metadata trace authn)
    (hkid : ¬ LacksKid lib metadata authn)
    (hlacks : LacksUserId lib metadata trace authn ↔
      ∃ claims, lib.decode now token key validation = .ok claims ∧ names.userId claims = none) :
    Judged lib metadata authn trace (names.verify lib key validation token now) := by
  unfold ClaimNames.verify
  cases hdecode : lib.decode now token key validation with
  | error kind =>
    refine judged_invalid (hasCredential htoken) reason_invalidJwt hunknown hkid ?_
    simp [hlacks, hdecode]
  | ok claims =>
    dsimp only
    unfold ClaimNames.identity
    cases huser : names.userId claims with
    | some userId => exact judged_ok _
    | none =>
      -- The claims were accepted but name no user: the reason then says that the token is
      -- missing.
      refine judged_refused ?_
      simp [NamesCause, reason_lacksUserId, hasCredential htoken, hlacks, hdecode, huser]

/-- Every run of the authenticator with a local key. -/
theorem jwt_returns (auth : JwtAuthenticator) :
    Returns (Judged lib metadata (.jwt auth)) (auth.authenticate lib metadata) := by
  unfold JwtAuthenticator.authenticate
  obtain ⟨token?, htoken⟩ := bearerToken_ok metadata
  cases token? with
  | none =>
    rw [requireToken_of_none htoken]
    exact judged_missing _ htoken
  | some token =>
    rw [requireToken_of_some htoken]
    refine ⟨trivial, ?_⟩
    rintro (now : ℕ) -
    have hnow : decodedAt [⟨.timestamp, now⟩] = some now := decodedAt_timestamp [] now
    refine judged_verify htoken id id ?_
    simp [LacksUserId, htoken, hnow]

/-! ### OIDC -/

variable {token : String} (htoken : bearerToken metadata = .ok (some token))
variable {header : TokenHeader} {kid : String} (hheader : lib.decodeHeader token = .ok header)
  (hkid : header.kid = some kid)
include htoken hheader hkid

/-- The kid of a token is the one in its header. -/
theorem hasKid_iff (token' kid' : String) :
    HasKid lib metadata token' kid' ↔ token' = token ∧ kid' = kid := by
  unfold HasKid
  rw [htoken, Except.ok.injEq, Option.some.injEq]
  constructor
  · rintro ⟨rfl, header', hheader', hkid'⟩
    obtain rfl := Except.ok.inj (hheader.symm.trans hheader')
    exact ⟨rfl, Option.some.inj (hkid'.symm.trans hkid)⟩
  · rintro ⟨rfl, rfl⟩
    exact ⟨rfl, header, hheader, hkid⟩

/-- A kid that the last lookup did not find is named as the cause. -/
theorem judged_unknownKid {auth : OidcVerifier} (hkey : lastKey kid trace = some none) :
    Judged lib metadata (.oidc auth) trace
      (.error (.refused (Status.unauthenticated "JWT kid not in JWKS"))) := by
  have hhas := hasKid_iff htoken hheader hkid
  refine judged_refused ?_
  simp [NamesCause, NoCredential, RefusedExpired, UnknownKid, LacksKid, LacksUserId, htoken,
    hheader, hkid, hhas, hkey, reason_unknownKid]

/-- A token whose key was found is judged by its verification. -/
theorem judged_known {auth : OidcVerifier} {key : DecodingKey} {now : ℕ}
    (hkey : lastKey kid trace = some (some key)) (hnow : decodedAt trace = some now) :
    Judged lib metadata (.oidc auth) trace
      (auth.verify lib (.jwks key) auth.validation token now) := by
  have hhas := hasKid_iff htoken hheader hkid
  refine judged_verify htoken ?_ ?_ ?_
  · simp [UnknownKid, hhas, hkey]
  · simp [LacksKid, htoken, hheader, hkid]
  · simp [LacksUserId, hhas, hkey, hnow]

end

/-- Every run of the OIDC authenticator. -/
theorem oidc_returns (lib : Jsonwebtoken) (parsers : KeyParsers) (auth : OidcVerifier)
    (metadata : MetadataMap) :
    Returns (Judged lib metadata (.oidc auth)) (auth.authenticate lib parsers metadata) := by
  unfold OidcVerifier.authenticate
  obtain ⟨token?, htoken⟩ := bearerToken_ok metadata
  cases token? with
  | none =>
    rw [requireToken_of_none htoken]
    exact judged_missing _ htoken
  | some token =>
    rw [requireToken_of_some htoken]
    simp only
    cases hheader : lib.decodeHeader token with
    | error kind =>
      -- None of the other causes needs a header that decodes.
      refine judged_invalid (hasCredential htoken) reason_invalidHeader ?_ ?_ ?_
      · simp [UnknownKid, HasKid, htoken, hheader]
      · simp [LacksKid, htoken, hheader]
      · simp [LacksUserId, HasKid, htoken, hheader]
    | ok header =>
      simp only
      cases hkid : header.kid with
      | none =>
        -- This reason says that the token is missing, which it is not.
        refine judged_refused ?_
        simp [NamesCause, NoCredential, LacksKid, htoken, hheader, hkid, reason_lacksKid]
      | some kid =>
        refine Prog.Obeys.bind ((keyFor_returns parsers auth.toOidcAuthenticator kid).mono ?_)
        -- The key decides: the kid is unknown, or the token is verified.
        intro es key hkey
        cases key with
        | none => exact judged_unknownKid htoken hheader hkid hkey
        | some key =>
          refine ⟨trivial, ?_⟩
          rintro (now : ℕ) -
          exact judged_known htoken hheader hkid (lastKey_other rfl hkey)
            (decodedAt_timestamp es now)

/-- **Reasons of refusals.** Whenever an authenticator refuses a request, the reason that the
handler reads off the status names the cause if and only if the token was not refused with the
expired-signature error, has a `kid` if it needs one, and its claims have the user id. -/
theorem namesCause_iff (lib : Jsonwebtoken) (parsers : KeyParsers) (authn : Authenticator)
    (metadata : MetadataMap) {trace : List (Event OidcSig)} {status : Status}
    (h : (authn.authenticate lib parsers metadata).After trace (.ret (.error (.refused status)))) :
    NamesCause lib metadata trace authn status ↔
      ¬ RefusedExpired lib metadata trace authn ∧ ¬ LacksKid lib metadata authn ∧
        ¬ LacksUserId lib metadata trace authn := by
  have hreturns : Returns (Judged lib metadata authn)
      (authn.authenticate lib parsers metadata) := by
    cases authn with
    | staticToken auth iteration => exact judged_staticToken auth iteration
    | jwt auth => exact jwt_returns auth
    | oidc auth => exact oidc_returns lib parsers auth metadata
  exact hreturns.after h (fun _ _ => trivial) status rfl

/-! ### Three refused tokens -/

/-- A request with some token. -/
def someToken : MetadataMap := fun _ => some (headerBytes "Bearer abc")

/-- A library for which every token has no `kid` and is decoded in the same way. -/
def constantLib (result : Except JwtErrorKind Claims) : Jsonwebtoken :=
  ⟨fun _ => .ok ⟨none⟩, fun _ _ _ _ => result⟩

/-- An HMAC authenticator without further checks. -/
def jwtAuth : JwtAuthenticator :=
  ⟨⟨"sub", none, none⟩, .secret [1, 2, 3], ⟨[.hs256], none, none, false⟩⟩

/-- An OIDC authenticator without further checks. -/
def oidcAuth : OidcVerifier :=
  ⟨⟨"idp/jwks", fromSecs 60, [.rs256]⟩, ⟨"sub", none, none⟩, none, none⟩

/-- Parsers that accept no key. -/
def noParsers : KeyParsers := ⟨fun _ _ => .error "not a key", fun _ _ => .error "not a key"⟩

/-- A call that has read the time, and nothing else. -/
def readTime : List (Event OidcSig) := [⟨.timestamp, (1700000000 : ℕ)⟩]

/-- The request has the token `abc`. -/
theorem bearerToken_someToken : bearerToken someToken = .ok (some "abc") := by
  decide +kernel

/-- What the authenticator with the local key returns for the token. -/
theorem jwtAuth_after (lib : Jsonwebtoken) :
    (jwtAuth.authenticate lib someToken).After readTime
      (.ret (jwtAuth.verify lib jwtAuth.decodingKey jwtAuth.validation "abc" 1700000000)) := by
  unfold JwtAuthenticator.authenticate
  rw [requireToken_of_some bearerToken_someToken]
  exact .cons (.nil _)

theorem decodedAt_readTime : decodedAt readTime = some 1700000000 := rfl

/-- A bad signature is an invalid token. -/
theorem namesCause_invalidSignature :
    let lib := constantLib (.error (.other "InvalidSignature"))
    authFailureReason (Status.unauthenticated "invalid JWT") = "invalid_token" ∧
      NamesCause lib someToken readTime (.jwt jwtAuth) (Status.unauthenticated "invalid JWT") := by
  intro lib
  refine ⟨reason_invalidJwt,
    (namesCause_iff lib noParsers (.jwt jwtAuth) someToken (jwtAuth_after lib)).mpr ⟨?_, id, ?_⟩⟩
  · rintro ⟨token, now, -, -, hdecode⟩
    cases hdecode
  · rintro ⟨token, now, claims, -, -, hdecode, -⟩
    cases hdecode

/-- An expired token is counted as invalid. A token without a user id, and one without a `kid`,
are counted as missing, although the request has a credential. -/
theorem refusals_misnamed :
    ((jwtAuth.authenticate (constantLib (.error .expiredSignature)) someToken).After readTime
        (.ret (.error (.refused (Status.unauthenticated "invalid JWT")))) ∧
      authFailureReason (Status.unauthenticated "invalid JWT") = "invalid_token" ∧
      ¬ NamesCause (constantLib (.error .expiredSignature)) someToken readTime (.jwt jwtAuth)
        (Status.unauthenticated "invalid JWT")) ∧
    ((jwtAuth.authenticate (constantLib (.ok fun _ => none)) someToken).After readTime
        (.ret (.error (.refused
          (Status.unauthenticated "JWT missing required claim \"sub\"")))) ∧
      authFailureReason (Status.unauthenticated "JWT missing required claim \"sub\"")
        = "missing_token" ∧
      ¬ NamesCause (constantLib (.ok fun _ => none)) someToken readTime (.jwt jwtAuth)
        (Status.unauthenticated "JWT missing required claim \"sub\"")) ∧
    (oidcAuth.authenticate (constantLib (.ok fun _ => none)) noParsers someToken
        = .ret (.error (.refused
          (Status.unauthenticated "JWT missing kid; OIDC requires keyed JWTs"))) ∧
      authFailureReason (Status.unauthenticated "JWT missing kid; OIDC requires keyed JWTs")
        = "missing_token" ∧
      ¬ NamesCause (constantLib (.ok fun _ => none)) someToken [] (.oidc oidcAuth)
        (Status.unauthenticated "JWT missing kid; OIDC requires keyed JWTs")) := by
  -- The request has a credential, so `missing_token` is wrong for it.
  have htoken := bearerToken_someToken
  have hcredential := hasCredential htoken
  have hclaim : "JWT missing required claim " ++ debugStr "sub"
      = "JWT missing required claim \"sub\"" := by decide +kernel
  have hreason := reason_lacksUserId "sub"
  rw [hclaim] at hreason
  refine ⟨⟨jwtAuth_after _, reason_invalidJwt, ?_⟩, ⟨?_, hreason, ?_⟩, ?_, reason_lacksKid, ?_⟩
  · -- The expired token should have had a reason of its own.
    rintro ⟨-, hexpired, -⟩
    have hlabel := hexpired.mpr ⟨"abc", 1700000000, htoken, decodedAt_readTime, rfl⟩
    rw [reason_invalidJwt] at hlabel
    exact absurd hlabel (by decide)
  · rw [← hclaim]
    exact jwtAuth_after _
  · rintro ⟨hmissing, -⟩
    exact hcredential (hmissing.mp hreason)
  · unfold OidcVerifier.authenticate
    rw [requireToken_of_some htoken]
    rfl
  · rintro ⟨hmissing, -⟩
    exact hcredential (hmissing.mp reason_lacksKid)

end SparkGateway.Proofs.Auth
