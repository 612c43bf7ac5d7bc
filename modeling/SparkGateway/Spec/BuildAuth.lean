import SparkGateway.Spec.JwtAuth

/-!
# `SparkGateway.Spec.BuildAuth`: the authenticator of a configuration

`build_auth` of `crates/gateway/src/main.rs`, `JwtAuthenticator::new` of `crates/auth/src/jwt.rs`
and `AnonymousAuthenticator`. The settings of the configuration file have the fields of the types
that they are copied to (`jwt_config`, `oidc_config`, `token_entry`), so there is one type for both.

`KeyFiles` stands for the file system and for the PEM parsers of `jsonwebtoken`. A PEM key is known
by its bytes.
-/

set_option autoImplicit false

namespace SparkGateway.Spec

open Lib

/-! ### JWT -/

/-- Where the key of a `JwtAuthenticator` comes from. -/
inductive KeySource where
  | pemFile (path : String)
  | pemInline (pem : String)
  | hmacSecret (secret : String)
deriving DecidableEq, Repr

/-- `JwtConfig`. -/
structure JwtConfig extends ClaimNames where
  key : KeySource
  algorithms : List String
  issuer : Option String
  audience : Option String
deriving DecidableEq, Repr

/-- `JwtError`. The errors of the file system and of `jsonwebtoken` are kept as their text. -/
inductive JwtError where
  | keyRead (path source : String)
  | keyParse (source : String)
  | unknownAlg (name : String)
  | noAlgorithms
  | emptyUserIdClaim
deriving DecidableEq, Repr

/-- `parse_algorithm` of `jwt.rs`. Unlike that of `oidc.rs` it knows the HMAC algorithms. -/
def parseTokenAlgorithm (name : String) : Except JwtError TokenAlgorithm :=
  match name.toUpper with
  | "HS256" => .ok .hs256
  | "HS384" => .ok .hs384
  | "HS512" => .ok .hs512
  | "RS256" => .ok (.asymmetric .rs256)
  | "RS384" => .ok (.asymmetric .rs384)
  | "RS512" => .ok (.asymmetric .rs512)
  | "PS256" => .ok (.asymmetric .ps256)
  | "PS384" => .ok (.asymmetric .ps384)
  | "PS512" => .ok (.asymmetric .ps512)
  | "ES256" => .ok (.asymmetric .es256)
  | "ES384" => .ok (.asymmetric .es384)
  | "EDDSA" => .ok (.asymmetric .edDSA)
  | other => .error (.unknownAlg other)

/-- The parsers `from_rsa_pem`, `from_ec_pem` and `from_ed_pem`. -/
inductive PemKind where
  | rsa | ec | ed
deriving DecidableEq, Repr

/-- The parser for an algorithm. The HMAC algorithms have none. -/
def TokenAlgorithm.pemKind : TokenAlgorithm → Option PemKind
  | .asymmetric .es256 => some .ec
  | .asymmetric .es384 => some .ec
  | .asymmetric .edDSA => some .ed
  | .asymmetric _ => some .rsa
  | _ => none

/-- The files that can be read, and which bytes the parsers accept. -/
structure KeyFiles where
  read : String → Except String (List UInt8)
  parse : PemKind → List UInt8 → Except String Unit

/-- `str::as_bytes`. -/
def asBytes (s : String) : List UInt8 := s.toByteArray.data.toList

/-- `build_pem_key`, by the first algorithm. With an HMAC algorithm the bytes are the secret. -/
def buildPemKey (files : KeyFiles) (first : TokenAlgorithm) (bytes : List UInt8) :
    Except JwtError VerificationKey :=
  match first.pemKind with
  | none => .ok (.secret bytes)
  | some kind =>
    match files.parse kind bytes with
    | .ok () => .ok (.pem bytes)
    | .error e => .error (.keyParse e)

/-- The key of a source. -/
def KeySource.load (files : KeyFiles) (first : TokenAlgorithm) :
    KeySource → Except JwtError VerificationKey
  | .pemFile path =>
    match files.read path with
    | .ok bytes => buildPemKey files first bytes
    | .error e => .error (.keyRead path e)
  | .pemInline pem => buildPemKey files first (asBytes pem)
  | .hmacSecret secret => .ok (.secret (asBytes secret))

/-- `JwtAuthenticator::new`. -/
def JwtAuthenticator.new (files : KeyFiles) (cfg : JwtConfig) : Except JwtError JwtAuthenticator :=
  if cfg.algorithms.isEmpty then .error .noAlgorithms
  else if cfg.userIdClaim.isEmpty then .error .emptyUserIdClaim
  else
    match cfg.algorithms.mapM parseTokenAlgorithm with
    | .error e => .error e
    -- `algos[0]` exists.
    | .ok [] => .error .noAlgorithms
    | .ok (first :: rest) =>
      match cfg.key.load files first with
      | .error e => .error e
      | .ok key => .ok {
          toClaimNames := cfg.toClaimNames
          decodingKey := key
          validation := ⟨first :: rest, cfg.issuer, cfg.audience, cfg.audience.isSome⟩ }

/-! ### OIDC -/

/-- `OidcConfig` with all its fields. -/
structure OidcSettings extends OidcConfig, ClaimNames where
  issuer : Option String
  audience : Option String
deriving DecidableEq, Repr

/-- `OidcAuthenticator::new`. -/
def OidcVerifier.new (parsers : KeyParsers) (cfg : OidcSettings) :
    Prog OidcSig (Except OidcError OidcVerifier) := do
  match ← OidcAuthenticator.new parsers cfg.toOidcConfig with
  | .error e => pure (.error e)
  | .ok auth => pure (.ok ⟨auth, cfg.toClaimNames, cfg.issuer, cfg.audience⟩)

/-! ### The authenticator -/

/-- `AuthConfig`. -/
inductive AuthConfig where
  | none
  | static (tokens : List TokenEntry)
  | jwt (cfg : JwtConfig)
  | oidc (cfg : OidcSettings)

/-- What makes `build_auth` fail. -/
inductive BuildAuthError where
  | staticToken (error : StaticTokenError)
  | jwt (error : JwtError)
  | oidc (error : OidcError)
deriving DecidableEq, Repr

/-- The authenticator that the gateway holds. -/
inductive BuiltAuth where
  | anonymous
  | staticToken (auth : StaticTokenAuthenticator)
  | jwt (auth : JwtAuthenticator)
  | oidc (auth : OidcVerifier)

/-- `build_auth`. -/
def buildAuth (files : KeyFiles) (parsers : KeyParsers) :
    AuthConfig → Prog OidcSig (Except BuildAuthError BuiltAuth)
  | .none => pure (.ok .anonymous)
  | .static tokens =>
    match StaticTokenAuthenticator.new tokens with
    | .error e => pure (.error (.staticToken e))
    | .ok auth => pure (.ok (.staticToken auth))
  | .jwt cfg =>
    match JwtAuthenticator.new files cfg with
    | .error e => pure (.error (.jwt e))
    | .ok auth => pure (.ok (.jwt auth))
  | .oidc cfg => do
    match ← OidcVerifier.new parsers cfg with
    | .error e => pure (.error (.oidc e))
    | .ok auth => pure (.ok (.oidc auth))

namespace BuiltAuth

/-- In which order a call iterates over the table of the static tokens. -/
def Order : BuiltAuth → Type
  | .staticToken auth => auth.inner.Iteration
  | _ => Unit

/-- `Authenticator::authenticate`. -/
def authenticate (lib : Jsonwebtoken) (parsers : KeyParsers) (metadata : MetadataMap) :
    (auth : BuiltAuth) → auth.Order → Prog OidcSig (Except AuthFailure Identity)
  | .anonymous, _ => pure (.ok (.user "anonymous"))
  | .staticToken auth, order =>
      (Authenticator.staticToken auth order).authenticate lib parsers metadata
  | .jwt auth, _ => (Authenticator.jwt auth).authenticate lib parsers metadata
  | .oidc auth, _ => (Authenticator.oidc auth).authenticate lib parsers metadata

end BuiltAuth

end SparkGateway.Spec
