import Mathlib.Data.Nat.Notation
import SparkGateway.Lib.Interleave

/-!
# `SparkGateway.Spec.Oidc`: the JWKS cache of the OIDC authenticator

`crates/auth/src/oidc.rs`: `OidcAuthenticator::new`, `key_for`, `fetch_jwks` and what they call.
The key cache, the refresh lock and the clock are shared by all calls of `key_for`, so each of
these functions is a program over `OidcSig`, with one command for each access: a read of the
cache, taking and dropping the lock, `last_refreshed.elapsed()`, the write of the cache. The
request of `fetch_jwks` takes time, so it is two commands: it is sent, and later its reply is
received. `decode` compares the `exp` and `nbf` claims of a token with the system clock, which it
reads by `timestamp`.

`oidcSemantics` is the meaning of the commands. Time passes between any two of them. The lock
can be taken only while it is free, and a reply can be anything. The system clock can be set, so
its readings can be anything as well. The state keeps the list of the JWKS requests, as the identity
provider sees them; the source has no such list.

A call of `key_for` can be dropped while it awaits the lock or the reply, when its client goes away.
At the lock it then takes no further step. At the reply the request is given up and the guard of the
lock is dropped, which is what happens after a failed request, so `JwksReply.abandoned` is treated
as one. What the call then returns is seen by nobody.

Times and durations are in nanoseconds, and timestamps in seconds.
`DecodingKey::from_rsa_components` and `from_ec_components` are functions of `jsonwebtoken`, and
`KeyParsers` stands for them. The checks of a token are in `Spec/JwtAuth.lean`.
-/

set_option autoImplicit false

namespace SparkGateway.Spec

open Lib

/-! ### Configuration and errors -/

/-- `OidcConfig`, less the fields that are only copied to the authenticator. -/
structure OidcConfig where
  jwksUrl : Option String
  discoveryUrl : Option String
  algorithms : List String
  refreshFloorSecs : ℕ
deriving DecidableEq, Repr

/-- The errors of `reqwest` and `jsonwebtoken` are kept as their text. `abandoned` is not an error
of the source: it ends a call that was dropped. -/
inductive OidcError where
  | noJwksSource
  | noAlgorithms
  | unknownAlg (name : String)
  | http (url source : String)
  | discoveryMissingJwks (url : String)
  | jwksParse (url source : String)
  | badKey (kid source : String)
  | abandoned
deriving DecidableEq, Repr

/-- `jsonwebtoken::Algorithm`, those with a public key. -/
inductive Algorithm where
  | rs256 | rs384 | rs512 | ps256 | ps384 | ps512 | es256 | es384 | edDSA
deriving DecidableEq, Repr

/-- `parse_algorithm`. -/
def parseAlgorithm (name : String) : Except OidcError Algorithm :=
  match name.toUpper with
  | "RS256" => .ok .rs256
  | "RS384" => .ok .rs384
  | "RS512" => .ok .rs512
  | "PS256" => .ok .ps256
  | "PS384" => .ok .ps384
  | "PS512" => .ok .ps512
  | "ES256" => .ok .es256
  | "ES384" => .ok .es384
  | "EDDSA" => .ok .edDSA
  | other => .error (.unknownAlg other)

/-! ### The JWKS document -/

/-- An entry of the JWKS document. -/
structure JwksKey where
  kid : Option String
  kty : String
  n : Option String
  e : Option String
  crv : Option String
  x : Option String
  y : Option String
deriving DecidableEq, Repr

/-- A key by the bytes of its components. -/
inductive DecodingKey where
  | rsa (n e : List UInt8)
  | ec (x y : List UInt8)
deriving DecidableEq, Repr

/-- `DecodingKey::from_rsa_components` and `from_ec_components`, with the text of their error. -/
structure KeyParsers where
  fromRsaComponents : (n e : String) → Except String DecodingKey
  fromEcComponents : (x y : String) → Except String DecodingKey

/-- `HashMap<String, DecodingKey>`. -/
abbrev Keys : Type := String → Option DecodingKey

/-- `out.insert(kid, dk)`, if the key could be decoded. -/
def Keys.insert (out : Keys) (kid : String) : Except String DecodingKey → Except OidcError Keys
  | .ok dk => .ok (Function.update out kid (some dk))
  | .error source => .error (.badKey kid source)

/-- The body of the loop in `fetch_jwks`. A key without a `kid`, with missing components or of
another type is skipped. -/
def Keys.add (parsers : KeyParsers) (out : Keys) (k : JwksKey) : Except OidcError Keys :=
  let kid := k.kid.getD ""
  if kid.isEmpty then .ok out
  else
    match k.kty with
    | "RSA" =>
        match k.n, k.e with
        | some n, some e => out.insert kid (parsers.fromRsaComponents n e)
        | _, _ => .ok out
    | "EC" =>
        match k.crv, k.x, k.y with
        | some _, some x, some y => out.insert kid (parsers.fromEcComponents x y)
        | _, _, _ => .ok out
    | _ => .ok out

/-- What came of a request for the JWKS document. It is abandoned if the call that sent it is
dropped. -/
inductive JwksReply where
  | sendFailed (source : String)
  | badBody (source : String)
  | jwks (keys : List JwksKey)
  | abandoned
deriving DecidableEq, Repr

/-- `fetch_jwks` from the reply on. -/
def JwksReply.keys (parsers : KeyParsers) (url : String) : JwksReply → Except OidcError Keys
  | .sendFailed source => .error (.http url source)
  | .badBody source => .error (.jwksParse url source)
  | .abandoned => .error .abandoned
  | .jwks keys => keys.foldlM (Keys.add parsers) fun _ => none

/-! ### Commands -/

/-- The accesses of the authenticators to what they share. -/
inductive OidcCmd where
  /-- The GET of `resolve_jwks_url`. -/
  | discover (url : String)
  /-- The GET of `fetch_jwks` goes out. -/
  | send (url : String)
  /-- Its reply, or its failure, is there, or the call is dropped. -/
  | receive (request : ℕ)
  /-- `cache.read().keys.get(kid)`. -/
  | cached (kid : String)
  /-- `refresh_lock.lock().await`. -/
  | lock
  /-- The guard of `refresh_lock` is dropped. -/
  | unlock
  /-- `cache.read().last_refreshed.elapsed()`. -/
  | elapsed
  /-- The keys are written, with `last_refreshed = Instant::now()`. -/
  | refresh (keys : Keys)
  /-- The time that `decode` reads. -/
  | timestamp

/-- The reply to `discover` is the `jwks_uri` of the document. -/
def OidcCmd.Reply : OidcCmd → Type
  | .discover _ => Except String (Option String)
  | .send _ => ℕ
  | .receive _ => JwksReply
  | .cached _ => Option DecodingKey
  | .lock => Unit
  | .unlock => Unit
  | .elapsed => ℕ
  | .refresh _ => Unit
  | .timestamp => ℕ

/-- The commands with their replies. -/
abbrev OidcSig : Sig := ⟨OidcCmd, OidcCmd.Reply⟩

/-- The program of one command. -/
def OidcCmd.call (c : OidcCmd) : Prog OidcSig c.Reply := Prog.perform (S := OidcSig) c

/-- One request for the JWKS document: when it was sent, and its reply once it is there. -/
structure JwksFetch where
  start : ℕ
  reply : Option JwksReply
deriving DecidableEq, Repr

namespace JwksFetch

/-- The request has been sent, and nothing has come of it yet. -/
def inFlight (f : JwksFetch) : Bool := f.reply.isNone

/-- `fetch_jwks` returned the keys. -/
def succeeded (parsers : KeyParsers) (url : String) (f : JwksFetch) : Bool :=
  match f.reply with
  | some reply => (reply.keys parsers url).isOk
  | none => false

/-- `fetch_jwks` returned an error or was abandoned. -/
def failed (parsers : KeyParsers) (url : String) (f : JwksFetch) : Bool :=
  match f.reply with
  | some reply => !(reply.keys parsers url).isOk
  | none => false

end JwksFetch

/-- The clock, `CachedKeys`, `refresh_lock`, and the requests in the order in which they were
sent. -/
structure OidcState where
  now : ℕ
  keys : Keys
  lastRefreshed : ℕ
  locked : Bool
  fetches : List JwksFetch

/-- The state after some time. -/
def OidcState.wait (s : OidcState) (d : ℕ) : OidcState := { s with now := s.now + d }

/-- What the commands do. -/
def oidcSemantics : Semantics OidcSig OidcState where
  cmd
    | .discover _, s, _, s' => s' = s
    | .send _, s, r, s' =>
        r = s.fetches.length ∧ s' = { s with fetches := s.fetches ++ [⟨s.now, none⟩] }
    | .receive request, s, r, s' =>
        s' = { s with fetches := s.fetches.modify request fun f => { f with reply := some r } }
    | .cached kid, s, r, s' => r = s.keys kid ∧ s' = s
    | .lock, s, _, s' => s.locked = false ∧ s' = { s with locked := true }
    | .unlock, s, _, s' => s' = { s with locked := false }
    | .elapsed, s, r, s' => r = s.now - s.lastRefreshed ∧ s' = s
    | .refresh keys, s, _, s' => s' = { s with keys := keys, lastRefreshed := s.now }
    | .timestamp, s, _, s' => s' = s
  env s s' := ∃ d, s' = s.wait d

/-! ### `OidcAuthenticator` -/

/-- `OidcAuthenticator`, less its cache and lock, which are in the state, and the fields that
only the check of a token reads. -/
structure OidcAuthenticator where
  jwksUrl : String
  refreshFloor : ℕ
  algorithms : List Algorithm
deriving DecidableEq, Repr

/-- `Duration::from_secs`. -/
def fromSecs (secs : ℕ) : ℕ := secs * 1000000000

/-- `resolve_jwks_url`. -/
def resolveJwksUrl (url : String) : Prog OidcSig (Except OidcError String) := do
  let doc : Except String (Option String) ← (OidcCmd.discover url).call
  match doc with
  | .error source => pure (.error (.http url source))
  | .ok none => pure (.error (.discoveryMissingJwks url))
  | .ok (some uri) => pure (.ok uri)

/-- `fetch_jwks`. -/
def fetchJwks (parsers : KeyParsers) (url : String) : Prog OidcSig (Except OidcError Keys) := do
  let request : ℕ ← (OidcCmd.send url).call
  let reply : JwksReply ← (OidcCmd.receive request).call
  pure (reply.keys parsers url)

namespace OidcAuthenticator

/-- The URL that `new` fetches the keys from. -/
def jwksSource (cfg : OidcConfig) : Prog OidcSig (Except OidcError String) :=
  match cfg.jwksUrl, cfg.discoveryUrl with
  | some url, _ => pure (.ok url)
  | none, some url => resolveJwksUrl url
  | none, none => pure (.error .noJwksSource)

/-- `OidcAuthenticator::new`. The cache starts with the keys of a first fetch. -/
def new (parsers : KeyParsers) (cfg : OidcConfig) :
    Prog OidcSig (Except OidcError OidcAuthenticator) :=
  if cfg.algorithms.isEmpty then pure (.error .noAlgorithms)
  else
    match cfg.algorithms.mapM parseAlgorithm with
    | .error e => pure (.error e)
    | .ok algorithms => do
        match ← jwksSource cfg with
        | .error e => pure (.error e)
        | .ok jwksUrl =>
            match ← fetchJwks parsers jwksUrl with
            | .error e => pure (.error e)
            | .ok keys =>
                let _ ← (OidcCmd.refresh keys).call
                pure (.ok ⟨jwksUrl, fromSecs cfg.refreshFloorSecs, algorithms⟩)

/-- `key_for`: the key for `kid`. On a miss the JWKS is fetched again, unless the last refresh is
less than the floor ago. -/
def keyFor (parsers : KeyParsers) (auth : OidcAuthenticator) (kid : String) :
    Prog OidcSig (Option DecodingKey) := do
  let found : Option DecodingKey ← (OidcCmd.cached kid).call
  match found with
  | some k => pure (some k)
  | none =>
      let _ ← OidcCmd.lock.call
      -- Another caller may have refreshed while this one waited.
      let found : Option DecodingKey ← (OidcCmd.cached kid).call
      match found with
      | some k =>
          let _ ← OidcCmd.unlock.call
          pure (some k)
      | none =>
          let elapsed : ℕ ← OidcCmd.elapsed.call
          if elapsed < auth.refreshFloor then
            let _ ← OidcCmd.unlock.call
            pure none
          else
            match ← fetchJwks parsers auth.jwksUrl with
            | .ok newKeys =>
                let _ ← (OidcCmd.refresh newKeys).call
                let _ ← OidcCmd.unlock.call
                (OidcCmd.cached kid).call
            | .error _ =>
                -- The error is logged, and `last_refreshed` stays as it is.
                let _ ← OidcCmd.unlock.call
                pure none

end OidcAuthenticator

end SparkGateway.Spec
