import SparkGateway.Proofs.Auth.FailureReason
import SparkGateway.Proofs.Auth.JwksCache
import SparkGateway.Spec.BuildAuth

/-!
# `SparkGateway.Proofs.Auth.Entitled`: an identity is one that the configuration grants

The gateway builds its authenticator from the configuration and then authenticates any number of
requests at the same time. `Entitled` says what a configuration grants, without the authenticator:
a listed token has the identity of its entry, and a JWT that is valid under the configured key,
algorithms, issuer and audience has the identity of its claims. Valid means at the time that the
call itself has read, as a token expires. With OIDC the key is the one that the identity provider
lists under the token's `kid`, in the document that is in force when the call reads the cache.

`identities_entitled` says that no other identity is ever returned. It also says where the documents
come from: every request for keys, of the startup and of the calls, goes to the configured URL, or
to the one that the discovery document names. This does not depend on what the calls return.
-/

set_option autoImplicit false

namespace SparkGateway.Proofs.Auth

open Lib Spec

/-! ### What a configuration grants -/

/-- The URL of the JWKS is the configured one, or the one of the discovery document. -/
def JwksSource (cfg : OidcConfig) (es : List (Event OidcSig)) (url : String) : Prop :=
  cfg.jwksUrl = some url ∨ cfg.jwksUrl = none ∧ ∃ discovery, cfg.discoveryUrl = some discovery ∧
    (⟨.discover discovery, .ok (some url)⟩ : Event OidcSig) ∈ es

/-- All requests for keys go to this URL. -/
def AsksAt (url : String) (es : List (Event OidcSig)) : Prop :=
  ∀ asked r, (⟨.send asked, r⟩ : Event OidcSig) ∈ es → asked = url

/-- With OIDC, all requests for keys go to this URL, and it is the one of the configuration. The
events `es` are those of the startup, and `t` is the run of the calls. -/
def AsksAsConfigured {ι : Type} [DecidableEq ι] (cfg : AuthConfig) (es : List (Event OidcSig))
    (t : List (Record OidcSig OidcState ι)) (url : String) : Prop :=
  ∀ settings : OidcSettings, cfg = .oidc settings →
    JwksSource settings.toOidcConfig es url ∧ AsksAt url es ∧ ∀ j, AsksAt url (eventsOf j t)

section
variable {ι : Type} [DecidableEq ι] (parsers : KeyParsers)

/-- A call has read the key in the cache, and the document in force listed it. -/
def ReadKey (url : String) (t : List (Record OidcSig OidcState ι)) (i : ι) (kid : String)
    (key : DecodingKey) : Prop :=
  ∃ before rec after doc, t = before ++ rec :: after ∧
    rec.actor = some (i, ⟨.cached kid, some key⟩) ∧ InForce parsers url rec.pre doc ∧
    Listed parsers doc kid key

/-- **What a configuration grants** to the request of a call `i` of the run `t`. The keys of the
identity provider come from `url`. -/
def Entitled (lib : Jsonwebtoken) (files : KeyFiles) (url : String)
    (t : List (Record OidcSig OidcState ι)) (i : ι) (metadata : MetadataMap)
    (identity : Identity) : AuthConfig → Prop
  | .none => identity = .user "anonymous"
  | .static tokens => ∃ e ∈ tokens, bearerToken metadata = .ok (some e.token) ∧
      identity = ⟨e.userId, e.tenant, e.groups⟩
  | .jwt cfg => ∃ token now first rest key claims, bearerToken metadata = .ok (some token) ∧
      (⟨.timestamp, now⟩ : Event OidcSig) ∈ eventsOf i t ∧
      cfg.algorithms.mapM parseTokenAlgorithm = .ok (first :: rest) ∧
      cfg.key.load files first = .ok key ∧
      lib.decode now token key ⟨first :: rest, cfg.issuer, cfg.audience, cfg.audience.isSome⟩
        = .ok claims ∧
      cfg.identity claims = .ok identity
  | .oidc cfg => ∃ token kid key now algorithms claims, HasKid lib metadata token kid ∧
      ReadKey parsers url t i kid key ∧ (⟨.timestamp, now⟩ : Event OidcSig) ∈ eventsOf i t ∧
      cfg.algorithms.mapM parseAlgorithm = .ok algorithms ∧
      lib.decode now token (.jwks key) ⟨algorithms.map .asymmetric, cfg.issuer, cfg.audience,
        cfg.audience.isSome⟩ = .ok claims ∧
      cfg.identity claims = .ok identity

end

/-! ### The startup -/

/-- The program has the state for itself. -/
abbrev Solo {α : Type} (Q : α → OidcState → Prop) (p : Prog OidcSig α) (s : OidcState) : Prop :=
  Guarded oidcSemantics (fun _ => true) Waits (fun _ => True) Q p true s

/-- The cache has the first document, and nobody has the lock. -/
def Primed (parsers : KeyParsers) (url : String) (s : OidcState) : Prop :=
  s.locked = false ∧ ∃ doc, Holds parsers url s s.fetches doc

/-- An authenticator that was returned has a primed cache. -/
def Ready (parsers : KeyParsers) (a : Except OidcError OidcAuthenticator) (s : OidcState) : Prop :=
  ∀ auth, a = .ok auth → Primed parsers auth.jwksUrl s

/-- A gateway with an OIDC authenticator has a primed cache. -/
def ReadyBuilt (parsers : KeyParsers) (a : Except BuildAuthError BuiltAuth)
    (s : OidcState) : Prop :=
  ∀ auth, a = .ok (.oidc auth) → Primed parsers auth.jwksUrl s

section
variable {parsers : KeyParsers} {s : OidcState}

/-- An error makes no promise about the cache. -/
theorem solo_error {e : OidcError} : Solo (Ready parsers) (.ret (.error e)) s :=
  fun _ _ _ hauth => nomatch hauth

/-- From the fetch on, `new` returns with a primed cache. -/
theorem solo_newFrom (auth : OidcAuthenticator) (hs : Fresh s) :
    Solo (Ready parsers) (newFrom parsers auth) s := by
  rintro s₁ ⟨d, rfl⟩ request s' ⟨rfl, rfl⟩
  refine ⟨trivial, ?_⟩
  rintro s₂ ⟨d', rfl⟩ (reply : JwksReply) s' rfl
  refine ⟨trivial, ?_⟩
  show Solo (Ready parsers) (.ret (reply.keys parsers auth.jwksUrl) >>= _) _
  cases hkeys : reply.keys parsers auth.jwksUrl with
  | error e => exact solo_error
  | ok keys =>
    obtain ⟨doc, rfl⟩ := jwks_of_keys hkeys
    rintro s₃ ⟨d'', rfl⟩ r s' rfl
    refine ⟨trivial, ?_⟩
    rintro s' ⟨d₃, rfl⟩ auth' hauth'
    cases hauth'
    refine ⟨hs.free, doc, ⟨⟨s.now + d, some (.jwks doc)⟩, ?_, rfl⟩, hkeys⟩
    show lastSuccess parsers auth.jwksUrl ((s.fetches ++ [_]).modify s.fetches.length _) = _
    rw [modify_length_snoc, lastSuccess_snoc]
    exact if_pos (succeeded_of_keys hkeys)

/-- `OidcAuthenticator::new` returns with a primed cache. -/
theorem solo_new (cfg : OidcConfig) (hs : Fresh s) :
    Solo (Ready parsers) (OidcAuthenticator.new parsers cfg) s := by
  unfold OidcAuthenticator.new
  split
  · exact solo_error
  · split
    · exact solo_error
    · rename_i algorithms _
      unfold OidcAuthenticator.jwksSource
      split
      · exact solo_newFrom ⟨_, _, algorithms⟩ hs
      · rintro s₁ ⟨d, rfl⟩ (doc : Except String (Option String)) s' rfl
        refine ⟨trivial, ?_⟩
        rcases doc with source | _ | uri
        · exact solo_error
        · exact solo_error
        · exact solo_newFrom ⟨uri, _, algorithms⟩ ⟨hs.fetches, hs.free⟩
      · exact solo_error

/-- What `build_auth` makes of the result of `OidcAuthenticator::new`. -/
def oidcResult (cfg : OidcSettings) :
    Except OidcError OidcAuthenticator → Except BuildAuthError BuiltAuth
  | .error e => .error (.oidc e)
  | .ok auth => .ok (.oidc ⟨auth, cfg.toClaimNames, cfg.issuer, cfg.audience⟩)

/-- With OIDC, `build_auth` is `OidcAuthenticator::new` and the wrapping of its result. -/
theorem buildAuth_oidc (files : KeyFiles) (cfg : OidcSettings) :
    buildAuth files parsers (.oidc cfg)
      = OidcAuthenticator.new parsers cfg.toOidcConfig >>= fun a => .ret (oidcResult cfg a) := by
  refine (Prog.bind_assoc _ _ _).trans (congrArg _ (funext fun a => ?_))
  cases a <;> rfl

/-- Time leaves the cache and the lock alone. -/
theorem Primed.wait {url : String} (h : Primed parsers url s) (d : ℕ) :
    Primed parsers url (s.wait d) := by
  obtain ⟨hfree, doc, hdoc⟩ := h
  exact ⟨hfree, doc, hdoc.last, hdoc.table⟩

/-- A gateway that was built with OIDC has a primed cache. -/
theorem solo_buildAuth (files : KeyFiles) (cfg : OidcSettings) (hs : Fresh s) :
    Solo (ReadyBuilt parsers) (buildAuth files parsers (.oidc cfg)) s := by
  rw [buildAuth_oidc]
  refine Guarded.bind (fun s => ⟨0, rfl⟩) (solo_new cfg.toOidcConfig hs) (fun _ _ => trivial) ?_
  rintro (e | auth) s hready s' ⟨d, rfl⟩ auth' hauth'
  · cases hauth'
  · cases hauth'
    exact (hready auth rfl).wait d

end

/-- The cache of an OIDC authenticator when the gateway starts to serve. -/
theorem primed_of_run {parsers : KeyParsers} {files : KeyFiles} {cfg : OidcSettings} {s : OidcState}
    {t : List (Record OidcSig OidcState Unit)}
    {c : Config OidcSig OidcState Unit (Except BuildAuthError BuiltAuth)} {auth : OidcVerifier}
    (hs : Fresh s) (hrun : Run oidcSemantics ⟨s, fun _ => buildAuth files parsers (.oidc cfg)⟩ t c)
    (hauth : c.thread () = .ret (.ok (.oidc auth))) : Primed parsers auth.jwksUrl c.shared := by
  exact hrun.alone relies_alone (solo_buildAuth files cfg hs) hauth auth rfl

/-! ### The settings of an authenticator -/

/-- The authenticator that `new` returns has the configured algorithms, and asks for keys at the
URL of the configuration. -/
def NewOidc (cfg : OidcConfig) (es : List (Event OidcSig)) (auth : OidcAuthenticator) : Prop :=
  JwksSource cfg es auth.jwksUrl ∧ AsksAt auth.jwksUrl es ∧
    cfg.algorithms.mapM parseAlgorithm = .ok auth.algorithms

/-- From the fetch on, `new` asks for keys at the authenticator's URL and keeps its settings. -/
theorem newFrom_returns {parsers : KeyParsers} {cfg : OidcConfig} (auth : OidcAuthenticator)
    {es : List (Event OidcSig)} (hsource : JwksSource cfg es auth.jwksUrl)
    (hasks : AsksAt auth.jwksUrl es)
    (halgorithms : cfg.algorithms.mapM parseAlgorithm = .ok auth.algorithms) :
    (newFrom parsers auth).Obeys (fun _ => True) (fun _ _ => True)
      (fun es a => ∀ auth', a = .ok auth' → NewOidc cfg es auth') es := by
  refine ⟨trivial, fun request _ => ⟨trivial, ?_⟩⟩
  rintro (reply : JwksReply) -
  show Prog.Obeys _ _ _ (.ret (reply.keys parsers auth.jwksUrl) >>= _) _
  cases reply.keys parsers auth.jwksUrl with
  | error e => exact fun auth' hauth' => nomatch hauth'
  | ok keys =>
    refine ⟨trivial, fun _ _ auth' hauth' => ?_⟩
    cases hauth'
    refine ⟨?_, ?_, halgorithms⟩
    · -- The discovery reply, if there was one, is still in the history.
      rcases hsource with hurl | ⟨hnone, discovery, hdiscovery, hmem⟩
      · exact .inl hurl
      · exact .inr ⟨hnone, discovery, hdiscovery, by simp [hmem]⟩
    · -- Of the three new events only the first one asks.
      intro asked r hmem
      simp only [List.append_assoc, List.mem_append, List.mem_cons, List.not_mem_nil,
        or_false] at hmem
      rcases hmem with hold | hsend | hreceive | hrefresh
      · exact hasks asked r hold
      · cases hsend
        rfl
      · cases hreceive
      · cases hrefresh

/-- `OidcAuthenticator::new` returns an authenticator of the configuration. -/
theorem new_returns (parsers : KeyParsers) (cfg : OidcConfig) :
    Returns (fun es a => ∀ auth, a = .ok auth → NewOidc cfg es auth)
      (OidcAuthenticator.new parsers cfg) := by
  -- An error returns no authenticator.
  have herror : ∀ (e : OidcError) (es : List (Event OidcSig)),
      (.ret (.error e) : Prog OidcSig (Except OidcError OidcAuthenticator)).Obeys (fun _ => True)
        (fun _ _ => True) (fun es a => ∀ auth, a = .ok auth → NewOidc cfg es auth) es :=
    fun e es auth hauth => nomatch hauth
  unfold OidcAuthenticator.new
  split
  · exact herror _ _
  · split
    · exact herror _ _
    · rename_i algorithms halgorithms
      unfold OidcAuthenticator.jwksSource
      split
      · -- A configured URL is used as it is.
        rename_i hurl
        exact newFrom_returns ⟨_, _, algorithms⟩ (.inl hurl) (fun _ _ hmem => nomatch hmem)
          halgorithms
      · -- Otherwise the discovery document names it.
        rename_i discovery hnone hdiscovery
        refine ⟨trivial, ?_⟩
        rintro (doc : Except String (Option String)) -
        rcases doc with source | _ | uri
        · exact herror _ _
        · exact herror _ _
        · refine newFrom_returns ⟨uri, _, algorithms⟩
            (.inr ⟨hnone, discovery, hdiscovery, List.mem_cons_self⟩) ?_ halgorithms
          intro asked r hmem
          cases List.mem_singleton.mp hmem
      · exact herror _ _

/-- The authenticator is the one of the configuration. -/
def BuiltFrom (files : KeyFiles) (es : List (Event OidcSig)) : AuthConfig → BuiltAuth → Prop
  | .none, .anonymous => True
  | .static tokens, .staticToken auth => StaticTokenAuthenticator.new tokens = .ok auth
  | .jwt cfg, .jwt auth => JwtAuthenticator.new files cfg = .ok auth
  | .oidc cfg, .oidc auth => NewOidc cfg.toOidcConfig es auth.toOidcAuthenticator ∧
      auth = ⟨auth.toOidcAuthenticator, cfg.toClaimNames, cfg.issuer, cfg.audience⟩
  | _, _ => False

/-- `build_auth` returns an authenticator of the configuration. -/
theorem buildAuth_returns (files : KeyFiles) (parsers : KeyParsers) (cfg : AuthConfig) :
    Returns (fun es a => ∀ built, a = .ok built → BuiltFrom files es cfg built)
      (buildAuth files parsers cfg) := by
  cases cfg with
  | none =>
    intro built hbuilt
    cases hbuilt
    trivial
  | static tokens =>
    -- The constructor of the static table is the condition itself.
    unfold buildAuth
    dsimp only
    split
    · exact fun built hbuilt => nomatch hbuilt
    · rename_i auth hauth
      intro built hbuilt
      cases hbuilt
      exact hauth
  | jwt cfg =>
    unfold buildAuth
    dsimp only
    split
    · exact fun built hbuilt => nomatch hbuilt
    · rename_i auth hauth
      intro built hbuilt
      cases hbuilt
      exact hauth
  | oidc cfg =>
    -- The only case that asks anyone.
    rw [buildAuth_oidc]
    refine Prog.Obeys.bind ((new_returns parsers cfg.toOidcConfig).mono ?_)
    rintro es (e | auth) hnew built hbuilt
    · cases hbuilt
    · cases hbuilt
      exact ⟨hnew auth rfl, rfl⟩

/-! ### One call -/

/-- What is behind an authenticator with a local key. -/
theorem jwtNew_ok {files : KeyFiles} {cfg : JwtConfig} {auth : JwtAuthenticator}
    (h : JwtAuthenticator.new files cfg = .ok auth) :
    ∃ first rest key, cfg.algorithms.mapM parseTokenAlgorithm = .ok (first :: rest) ∧
      cfg.key.load files first = .ok key ∧
      auth = ⟨cfg.toClaimNames, key,
        ⟨first :: rest, cfg.issuer, cfg.audience, cfg.audience.isSome⟩⟩ := by
  unfold JwtAuthenticator.new at h
  split at h
  · cases h
  · split at h
    · cases h
    · split at h
      · cases h
      · cases h
      · rename_i first rest halgorithms
        split at h
        · cases h
        · rename_i key hkey
          exact ⟨first, rest, key, halgorithms, hkey, (Except.ok.inj h).symm⟩

/-- The claims of a token that was accepted. -/
theorem verify_ok {lib : Jsonwebtoken} {names : ClaimNames} {key : VerificationKey}
    {validation : Validation} {token : String} {now : ℕ} {identity : Identity}
    (h : names.verify lib key validation token now = .ok identity) :
    ∃ claims, lib.decode now token key validation = .ok claims ∧
      names.identity claims = .ok identity := by
  unfold ClaimNames.verify at h
  split at h
  · cases h
  · rename_i claims hdecode
    exact ⟨claims, hdecode, h⟩

/-- How a call of an authenticator with a local key comes to an identity. -/
def VerifiedLocally (lib : Jsonwebtoken) (auth : JwtAuthenticator) (metadata : MetadataMap)
    (es : List (Event OidcSig)) (identity : Identity) : Prop :=
  ∃ token now claims, bearerToken metadata = .ok (some token) ∧
    (⟨.timestamp, now⟩ : Event OidcSig) ∈ es ∧
    lib.decode now token auth.decodingKey auth.validation = .ok claims ∧
    auth.identity claims = .ok identity

/-- An identity from a JWT was verified at a time that the call has read. -/
theorem jwt_verified (lib : Jsonwebtoken) (auth : JwtAuthenticator) (metadata : MetadataMap) :
    Returns (fun es a => ∀ identity, a = .ok identity →
      VerifiedLocally lib auth metadata es identity) (auth.authenticate lib metadata) := by
  unfold JwtAuthenticator.authenticate
  obtain ⟨token?, htoken⟩ := bearerToken_ok metadata
  cases token? with
  | none =>
    rw [requireToken_of_none htoken]
    exact fun identity hidentity => nomatch hidentity
  | some token =>
    rw [requireToken_of_some htoken]
    refine ⟨trivial, ?_⟩
    rintro (now : ℕ) - identity hverify
    obtain ⟨claims, hdecode, hidentity⟩ := verify_ok hverify
    exact ⟨token, now, claims, htoken, List.mem_singleton_self _, hdecode, hidentity⟩

/-- The key that was read last was read. -/
theorem mem_of_lastKey {kid : String} {es : List (Event OidcSig)} {key : DecodingKey}
    (h : lastKey kid es = some (some key)) :
    (⟨.cached kid, some key⟩ : Event OidcSig) ∈ es := by
  obtain ⟨⟨c, r⟩, hmem, hreply⟩ := List.mem_filterMap.mp (List.mem_of_getLast? h)
  cases c with
  | cached asked =>
    dsimp only at hreply
    split at hreply
    · rename_i hasked
      subst hasked
      cases hreply
      exact hmem
    · cases hreply
  | _ => cases hreply

/-- How a call of an OIDC authenticator comes to an identity. -/
def Verified (lib : Jsonwebtoken) (auth : OidcVerifier) (metadata : MetadataMap)
    (es : List (Event OidcSig)) (identity : Identity) : Prop :=
  ∃ token kid key now claims, HasKid lib metadata token kid ∧
    (⟨.cached kid, some key⟩ : Event OidcSig) ∈ es ∧ (⟨.timestamp, now⟩ : Event OidcSig) ∈ es ∧
    lib.decode now token (.jwks key) auth.validation = .ok claims ∧
    auth.identity claims = .ok identity

/-- An identity from an OIDC token was verified with a key, and at a time, that the call has read.
-/
theorem oidc_verified (lib : Jsonwebtoken) (parsers : KeyParsers) (auth : OidcVerifier)
    (metadata : MetadataMap) :
    Returns (fun es a => ∀ identity, a = .ok identity → Verified lib auth metadata es identity)
      (auth.authenticate lib parsers metadata) := by
  unfold OidcVerifier.authenticate
  obtain ⟨token?, htoken⟩ := bearerToken_ok metadata
  cases token? with
  | none =>
    -- A request without a token is refused before anything is read.
    rw [requireToken_of_none htoken]
    exact fun identity hidentity => nomatch hidentity
  | some token =>
    rw [requireToken_of_some htoken]
    dsimp only
    cases hheader : lib.decodeHeader token with
    | error kind => exact fun identity hidentity => nomatch hidentity
    | ok header =>
      dsimp only
      cases hkid : header.kid with
      | none => exact fun identity hidentity => nomatch hidentity
      | some kid =>
        -- The key is the last one that `key_for` has read.
        refine Prog.Obeys.bind ((keyFor_returns parsers auth.toOidcAuthenticator kid).mono ?_)
        rintro es (_ | key) hkey
        · exact fun identity hidentity => nomatch hidentity
        · refine ⟨trivial, ?_⟩
          rintro (now : ℕ) - identity hverify
          obtain ⟨claims, hdecode, hidentity⟩ := verify_ok hverify
          exact ⟨token, kid, key, now, claims, ⟨htoken, header, hheader, hkid⟩,
            List.mem_append_left _ (mem_of_lastKey hkey), by simp, hdecode, hidentity⟩

/-- A request for keys goes to this URL. -/
def AsksOnly (url : String) (c : OidcCmd) : Prop := ∀ asked, c = .send asked → asked = url

/-- `key_for` asks at the authenticator's URL only. -/
theorem keyFor_asks (parsers : KeyParsers) (auth : OidcAuthenticator) (kid : String) :
    (auth.keyFor parsers kid).Uses (AsksOnly auth.jwksUrl) := by
  refine ⟨fun _ h => (nomatch h), ?_⟩
  rintro (_ | key)
  · refine ⟨fun _ h => (nomatch h), fun _ => ⟨fun _ h => (nomatch h), ?_⟩⟩
    rintro (_ | key)
    · refine ⟨fun _ h => (nomatch h), fun (elapsed : ℕ) => ?_⟩
      -- Only past the floor is there a request.
      show Prog.Uses _ (if elapsed < auth.refreshFloor then _ else _)
      split
      · exact ⟨fun _ h => (nomatch h), fun _ => trivial⟩
      · refine ⟨fun asked h => (OidcCmd.send.inj h).symm, fun request =>
          ⟨fun _ h => (nomatch h), fun (reply : JwksReply) => ?_⟩⟩
        show Prog.Uses _ (.ret (reply.keys parsers auth.jwksUrl) >>= _)
        cases reply.keys parsers auth.jwksUrl with
        | error e => exact ⟨fun _ h => (nomatch h), fun _ => trivial⟩
        | ok keys =>
          exact ⟨fun _ h => (nomatch h), fun _ => ⟨fun _ h => (nomatch h),
            fun _ => ⟨fun _ h => (nomatch h), fun _ => trivial⟩⟩⟩
    · exact ⟨fun _ h => (nomatch h), fun _ => trivial⟩
  · trivial

/-- The program at most reads the time. -/
def OnlyDecodes {α : Type} (p : Prog OidcSig α) : Prop :=
  (∃ a, p = .ret a) ∨ ∃ result : ℕ → α, p = .step .timestamp fun now => .ret (result now)

/-- A call of an OIDC authenticator looks up one key at most, and then only decodes the token. -/
theorem authenticate_cases (lib : Jsonwebtoken) (parsers : KeyParsers) (auth : OidcVerifier)
    (metadata : MetadataMap) :
    (∃ result, auth.authenticate lib parsers metadata = .ret result) ∨
      ∃ (kid : String) (rest : Option DecodingKey → Prog OidcSig (Except AuthFailure Identity)),
        auth.authenticate lib parsers metadata = auth.keyFor parsers kid >>= rest ∧
          ∀ key, OnlyDecodes (rest key) := by
  unfold OidcVerifier.authenticate
  -- Each refusal before the lookup returns at once.
  cases requireToken metadata with
  | error failure => exact .inl ⟨_, rfl⟩
  | ok token =>
    dsimp only
    cases lib.decodeHeader token with
    | error kind => exact .inl ⟨_, rfl⟩
    | ok header =>
      dsimp only
      cases header.kid with
      | none => exact .inl ⟨_, rfl⟩
      | some kid =>
        refine .inr ⟨kid, _, rfl, fun key => ?_⟩
        cases key with
        | none => exact .inl ⟨_, rfl⟩
        | some key => exact .inr ⟨_, rfl⟩

/-- A call of an OIDC authenticator tends the cache as its `key_for` does. -/
theorem authenticate_tending (lib : Jsonwebtoken) (parsers : KeyParsers) (auth : OidcVerifier)
    (metadata : MetadataMap) (s : OidcState) :
    Tending parsers auth.jwksUrl (auth.authenticate lib parsers metadata) false s := by
  rcases authenticate_cases lib parsers auth metadata with ⟨result, h⟩ | ⟨kid, rest, h, hrest⟩
  · rw [h]
    trivial
  · rw [h]
    refine Guarded.bind (fun s => ⟨0, rfl⟩)
      (keyFor_tending parsers auth.toOidcAuthenticator kid s) ?_ fun _ _ hheld => hheld.elim
    intro key s
    rcases hrest key with ⟨a, ha⟩ | ⟨result, hresult⟩
    · rw [ha]
      trivial
    · rw [hresult]
      rintro s r s' - rfl
      exact .inl ⟨⟨0, rfl⟩, trivial⟩

/-- A call asks at the authenticator's URL only. -/
theorem authenticate_asks (lib : Jsonwebtoken) (parsers : KeyParsers) (auth : OidcVerifier)
    (metadata : MetadataMap) :
    (auth.authenticate lib parsers metadata).Uses (AsksOnly auth.jwksUrl) := by
  rcases authenticate_cases lib parsers auth metadata with ⟨result, h⟩ | ⟨kid, rest, h, hrest⟩
  · rw [h]
    trivial
  · rw [h]
    refine (keyFor_asks parsers auth.toOidcAuthenticator kid).bind fun key => ?_
    rcases hrest key with ⟨a, ha⟩ | ⟨result, hresult⟩
    · rw [ha]
      trivial
    · rw [hresult]
      exact ⟨fun _ h => (nomatch h), fun _ => trivial⟩

/-! ### Any number of calls -/

section
variable {ι : Type} [DecidableEq ι] {lib : Jsonwebtoken} {parsers : KeyParsers}
  {metadata : ι → MetadataMap} {s : OidcState} {t : List (Record OidcSig OidcState ι)}
  {c : Config OidcSig OidcState ι (Except AuthFailure Identity)} {i : ι}

/-- A key that a call of an OIDC authenticator reads is listed in the document in force. -/
theorem readKey_of_run {auth : OidcVerifier} (hs : Primed parsers auth.jwksUrl s)
    (hrun : Run oidcSemantics ⟨s, fun i => auth.authenticate lib parsers (metadata i)⟩ t c)
    {kid : String} {key : DecodingKey}
    (hmem : (⟨.cached kid, some key⟩ : Event OidcSig) ∈ eventsOf i t) :
    ReadKey parsers auth.jwksUrl t i kid key := by
  obtain ⟨hfree, doc₀, hdoc₀⟩ := hs
  obtain ⟨before, rec, after, c₁, c₂, rfl, hact, hbefore, hstep, -⟩ := hrun.event_at hmem
  obtain ⟨doc, hdoc⟩ := inForce_of_run hdoc₀ hfree
    (fun i s => authenticate_tending lib parsers auth (metadata i) s) hbefore
  rw [← hstep.shared.1] at hdoc
  refine ⟨before, rec, after, doc, rfl, hact, hdoc, ?_⟩
  -- The reply is what the cache has, and that is the table of the document.
  have hread : some key = rec.pre.keys kid := (hstep.cmd_of hact).1
  have htable : (JwksReply.jwks doc).keys parsers auth.jwksUrl = .ok rec.pre.keys := by
    rcases hdoc with h | ⟨-, h⟩
    · exact h.table
    · exact h.table
  exact (table_eq_some_iff doc htable kid key).mp hread.symm

/-- Where the calls of an OIDC authenticator ask for keys. -/
theorem asksAt_of_run {auth : OidcVerifier}
    (hrun : Run oidcSemantics ⟨s, fun i => auth.authenticate lib parsers (metadata i)⟩ t c)
    (j : ι) : AsksAt auth.jwksUrl (eventsOf j t) := by
  intro asked r hmem
  have hobeys : (auth.authenticate lib parsers (metadata j)).Obeys (fun _ => True)
      (fun _ c => AsksOnly auth.jwksUrl c) (fun es' _ => [] <+: es') [] :=
    (authenticate_asks lib parsers auth (metadata j)).obeys fun _ _ _ h => h
  obtain ⟨-, -, hasks⟩ := hrun.issued_of_mem hobeys (fun _ _ => trivial) hmem
  exact hasks asked rfl

/-- An identity that a call of an OIDC authenticator returns. -/
theorem entitled_oidc {lib : Jsonwebtoken} {files : KeyFiles} {es : List (Event OidcSig)}
    {cfg : OidcSettings} {auth : OidcVerifier} (hfrom : BuiltFrom files es (.oidc cfg) (.oidc auth))
    (hs : Primed parsers auth.jwksUrl s)
    (hrun : Run oidcSemantics ⟨s, fun i => auth.authenticate lib parsers (metadata i)⟩ t c)
    {identity : Identity} (hret : c.thread i = .ret (.ok identity)) :
    Entitled parsers lib files auth.jwksUrl t i (metadata i) identity (.oidc cfg) := by
  obtain ⟨⟨-, -, halgorithms⟩, hauth⟩ := hfrom
  obtain ⟨token, kid, key, now, claims, hkid, hmem, hnow, hdecode, hidentity⟩ :=
    hrun.returned hret (oidc_verified lib parsers auth (metadata i)) (fun _ _ => trivial)
      identity rfl
  refine ⟨token, kid, key, now, auth.algorithms, claims, hkid, readKey_of_run hs hrun hmem, hnow,
    halgorithms, ?_, ?_⟩
  · rw [hauth] at hdecode
    exact hdecode
  · rw [hauth] at hidentity
    exact hidentity

/-- An identity that a call with a local key returns. -/
theorem entitled_jwt {lib : Jsonwebtoken} {files : KeyFiles} {url : String} {cfg : JwtConfig}
    {auth : JwtAuthenticator} (hnew : JwtAuthenticator.new files cfg = .ok auth)
    (hrun : Run oidcSemantics ⟨s, fun i => auth.authenticate lib (metadata i)⟩ t c)
    {identity : Identity} (hret : c.thread i = .ret (.ok identity)) :
    Entitled parsers lib files url t i (metadata i) identity (.jwt cfg) := by
  obtain ⟨first, rest, key, halgorithms, hkey, rfl⟩ := jwtNew_ok hnew
  obtain ⟨token, now, claims, htoken, hnow, hdecode, hidentity⟩ :=
    hrun.returned hret (jwt_verified lib _ (metadata i)) (fun _ _ => trivial) identity rfl
  exact ⟨token, now, first, rest, key, claims, htoken, hnow, halgorithms, hkey, hdecode, hidentity⟩

/-- What a call without commands returns. -/
theorem value_of_run {p : ι → Prog OidcSig (Except AuthFailure Identity)}
    {a b : Except AuthFailure Identity} (hrun : Run oidcSemantics ⟨s, p⟩ t c)
    (hp : p i = .ret a) (hret : c.thread i = .ret b) : b = a := by
  have hreturns : (p i).Obeys (fun _ => True) (fun _ _ => True) (fun _ b => b = a) [] := by
    rw [hp]
    rfl
  exact hrun.returned hret hreturns fun _ _ => trivial

/-- **Identities are entitled.** Take a configuration for which the startup has returned an
authenticator, and any number of requests that are authenticated in any interleaving. With OIDC all
requests for keys, of the startup and of the calls, go to one URL, which is the configured one or
the one of the discovery document. An identity that a call returns is one that the configuration
grants to its request, with the keys from this URL. -/
theorem identities_entitled (lib : Jsonwebtoken) (files : KeyFiles) (parsers : KeyParsers)
    (cfg : AuthConfig) {built : BuiltAuth} (metadata : ι → MetadataMap) (order : ι → built.Order)
    {s : OidcState} {t₀ : List (Record OidcSig OidcState Unit)}
    {c₀ : Config OidcSig OidcState Unit (Except BuildAuthError BuiltAuth)} (hs : Fresh s)
    (hbuild : Run oidcSemantics ⟨s, fun _ => buildAuth files parsers cfg⟩ t₀ c₀)
    (hbuilt : c₀.thread () = .ret (.ok built))
    {t : List (Record OidcSig OidcState ι)}
    {c : Config OidcSig OidcState ι (Except AuthFailure Identity)}
    (hrun : Run oidcSemantics
      ⟨c₀.shared, fun i => built.authenticate lib parsers (metadata i) (order i)⟩ t c) :
    ∃ url, AsksAsConfigured cfg (eventsOf () t₀) t url ∧
      ∀ i identity, c.thread i = .ret (.ok identity) →
        Entitled parsers lib files url t i (metadata i) identity cfg := by
  -- What was built fixes the authenticator of every call.
  have hfrom := hbuild.returned hbuilt (buildAuth_returns files parsers cfg) (fun _ _ => trivial)
    built rfl
  cases cfg with
  | none =>
    cases built with
    | anonymous =>
      -- Without authentication no key is ever asked for, so any URL will do.
      refine ⟨"", fun settings h => (nomatch h), fun i identity hret => ?_⟩
      exact Except.ok.inj (value_of_run hrun rfl hret)
    | _ => exact hfrom.elim
  | static tokens =>
    cases built with
    | staticToken auth =>
      refine ⟨"", fun settings h => (nomatch h), fun i identity hret => ?_⟩
      -- The static table answers in one step, and its answer is that of the configured entry.
      have hresult : .ok identity = auth.authenticate (order i) (metadata i) :=
        value_of_run hrun rfl hret
      exact (authenticate_ok_iff hfrom (order i) (metadata i) identity).mp hresult.symm
    | _ => exact hfrom.elim
  | jwt cfg =>
    cases built with
    | jwt auth =>
      exact ⟨"", fun settings h => (nomatch h), fun i identity hret => entitled_jwt hfrom hrun hret⟩
    | _ => exact hfrom.elim
  | oidc cfg =>
    cases built with
    | oidc auth =>
      -- The cache that the startup has left is primed, so a key read from it is listed.
      refine ⟨auth.jwksUrl, ?_, fun i identity hret =>
        entitled_oidc hfrom (primed_of_run hs hbuild hbuilt) hrun hret⟩
      rintro settings ⟨⟩
      obtain ⟨⟨hsource, hasks, -⟩, -⟩ := hfrom
      exact ⟨hsource, hasks, asksAt_of_run hrun⟩
    | _ => exact hfrom.elim

end

/-! ### A key that the identity provider has rotated in -/

namespace RotatedKey

/-- The base64url decoder on the components of the two keys. -/
def component : String → Except String (List UInt8)
  | "AQAB" => .ok [1, 0, 1]
  | "sQ" => .ok [177]
  | "tQ" => .ok [181]
  | _ => .error "invalid base64"

/-- The key parsers, from this decoder. -/
def parsers : KeyParsers where
  fromRsaComponents n e := do return .rsa (← component n) (← component e)
  fromEcComponents x y := do return .ec (← component x) (← component y)

/-- There are no key files. -/
def files : KeyFiles := ⟨fun _ => .error "not found", fun _ _ => .error "not a key"⟩

/-- One JWKS document, and a floor of a minute. -/
def settings : OidcSettings where
  jwksUrl := some "idp/jwks"
  discoveryUrl := none
  algorithms := ["RS256"]
  refreshFloorSecs := 60
  userIdClaim := "sub"
  tenantClaim := none
  groupsClaim := none
  issuer := none
  audience := none

/-- The authenticator of these settings. -/
def verifier : OidcVerifier :=
  ⟨⟨"idp/jwks", fromSecs 60, [.rs256]⟩, settings.toClaimNames, none, none⟩

/-- The old key and the new one. -/
def oldKey : DecodingKey := .rsa [177] [1, 0, 1]

/-- The key that the provider rotates in. -/
def newKey : DecodingKey := .rsa [181] [1, 0, 1]

/-- The claims of the token. -/
def claims : Claims := fun name => if name = "sub" then some (.string "alice") else none

/-- There is one good token. It is alice's, is signed with the new key, and expires at a given
second. -/
def lib : Jsonwebtoken where
  decodeHeader token := if token = "abc" then .ok ⟨some "k2"⟩ else .error (.other "InvalidToken")
  decode now token key _ :=
    if token ≠ "abc" then .error (.other "InvalidToken")
    else if key ≠ .jwks newKey then .error (.other "InvalidSignature")
    else if 1700000600 < now then .error .expiredSignature
    else .ok claims

/-- An entry of the JWKS document. -/
def entry (kid n : String) : JwksKey := ⟨some kid, "RSA", some n, some "AQAB", none, none, none⟩

/-- The keys of a document with one entry. -/
def keysOf (kid : String) (key : DecodingKey) : Keys :=
  Function.update (fun _ => none) kid (some key)

/-- The state before the startup. -/
def start : OidcState := ⟨0, fun _ => none, 0, false, []⟩

/-- The state a minute after the startup, with the old key. -/
def minuteLater : OidcState :=
  ⟨fromSecs 60, keysOf "k1" oldKey, 0, false, [⟨0, some (.jwks [entry "k1" "sQ"])⟩]⟩

/-- With these settings `build_auth` fetches at once. -/
theorem build_eq : buildAuth files parsers (.oidc settings)
    = newFrom parsers verifier.toOidcAuthenticator >>= fun a => .ret (oidcResult settings a) := by
  have halg : ["RS256"].mapM parseAlgorithm = .ok [.rs256] := by decide +kernel
  rw [buildAuth_oidc]
  congr 1
  unfold OidcAuthenticator.new
  rw [show settings.toOidcConfig.algorithms = ["RS256"] from rfl, halg]
  rfl

/-- The startup fetches the old key, and a minute passes. -/
theorem build_reaches :
    Reaches oidcSemantics ⟨start, fun _ : Unit => buildAuth files parsers (.oidc settings)⟩
      fun c => c.thread () = .ret (.ok (.oidc verifier)) ∧ c.shared = minuteLater := by
  rw [build_eq]
  refine .cmd () rfl (0 : ℕ) ⟨rfl, rfl⟩ ?_
  refine .cmd () rfl (JwksReply.jwks [entry "k1" "sQ"]) rfl ?_
  refine .cmd () rfl () rfl ?_
  refine .env ⟨fromSecs 60, rfl⟩ ?_
  exact .here ⟨rfl, rfl⟩

/-- What a call does with a key. -/
def rest : Option DecodingKey → Prog OidcSig (Except AuthFailure Identity)
  | none => .ret (.error (.refused (Status.unauthenticated "JWT kid not in JWKS")))
  | some key => .step .timestamp fun now =>
      .ret (verifier.verify lib (.jwks key) verifier.validation "abc" now)

/-- A call with this token looks its key up and then decodes. -/
theorem call_eq : BuiltAuth.authenticate lib parsers someToken (.oidc verifier) ()
    = verifier.keyFor parsers "k2" >>= rest := by
  show verifier.authenticate lib parsers someToken = _
  unfold OidcVerifier.authenticate
  rw [requireToken_of_some bearerToken_someToken]
  refine congrArg (verifier.keyFor parsers "k2" >>= ·) (funext fun key => ?_)
  cases key <;> rfl

/-- The first call misses, fetches the new document, and is accepted. The second call has the same
token, but the token expires before it is decoded. -/
theorem call_reaches : Reaches oidcSemantics
    ⟨minuteLater, fun _ : Bool => BuiltAuth.authenticate lib parsers someToken (.oidc verifier) ()⟩
      fun c => c.thread true = .ret (.ok (.user "alice")) ∧
        c.thread false = .ret (.error (.refused (Status.unauthenticated "invalid JWT"))) := by
  rw [call_eq]
  refine .cmd true rfl none ⟨rfl, rfl⟩ ?_
  refine .cmd true rfl () ⟨rfl, rfl⟩ ?_
  refine .cmd true rfl none ⟨rfl, rfl⟩ ?_
  refine .cmd true rfl (fromSecs 60) ⟨rfl, rfl⟩ ?_
  refine .cmd true rfl (1 : ℕ) ⟨rfl, rfl⟩ ?_
  refine .cmd true rfl (JwksReply.jwks [entry "k2" "tQ"]) rfl ?_
  refine .cmd true rfl () rfl ?_
  refine .cmd true rfl () rfl ?_
  refine .cmd true rfl (keysOf "k2" newKey "k2") ⟨rfl, rfl⟩ ?_
  refine .cmd true rfl (1700000590 : ℕ) rfl ?_
  refine .cmd false rfl (some newKey) ⟨rfl, rfl⟩ ?_
  refine .cmd false rfl (1700000601 : ℕ) rfl ?_
  exact .here ⟨rfl, rfl⟩

end RotatedKey

/-- Alice's token is accepted under the new key, until it expires. -/
theorem identities_entitled_rotatedKey :
    ∃ es t, ∃ c : Config OidcSig OidcState Bool (Except AuthFailure Identity), ∃ url,
      c.thread true = .ret (.ok (.user "alice")) ∧
      c.thread false = .ret (.error (.refused (Status.unauthenticated "invalid JWT"))) ∧
      AsksAsConfigured (.oidc RotatedKey.settings) es t url ∧
      Entitled RotatedKey.parsers RotatedKey.lib RotatedKey.files url t true someToken
        (.user "alice") (.oidc RotatedKey.settings) := by
  obtain ⟨t₀, c₀, hbuild, hbuilt, hlater⟩ := RotatedKey.build_reaches
  obtain ⟨t, c, hrun, hret, hrefused⟩ := RotatedKey.call_reaches
  rw [← hlater] at hrun
  let order : Bool → BuiltAuth.Order (.oidc RotatedKey.verifier) := fun _ => ()
  obtain ⟨url, hasks, hentitled⟩ := identities_entitled RotatedKey.lib RotatedKey.files
    RotatedKey.parsers (.oidc RotatedKey.settings) (fun _ => someToken) order ⟨rfl, rfl⟩ hbuild
    hbuilt hrun
  exact ⟨_, t, c, url, hret, hrefused, hasks, hentitled true _ hret⟩

end SparkGateway.Proofs.Auth
