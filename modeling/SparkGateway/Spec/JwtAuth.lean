import SparkGateway.Spec.Auth
import SparkGateway.Spec.Oidc

/-!
# `SparkGateway.Spec.JwtAuth`: the authenticators for signed tokens

`JwtAuthenticator::authenticate` (`crates/auth/src/jwt.rs`), which verifies a JWT against a key
from the configuration, and `OidcAuthenticator::authenticate` (`crates/auth/src/oidc.rs`), which
takes the key from the JWKS cache of `Spec/Oidc.lean`. Both read the system clock when they decode a
token, and the cache is shared, so they are programs. `Authenticator` is the trait object that the
gateway holds.

`decode` and `decode_header` are the functions of the `jsonwebtoken` crate. They are fields of
`Jsonwebtoken`, so they can be any functions. Whether a token has expired depends on the time, so
`decode` has it as its first argument. The claims and the header have the fields that the
authenticators read.
-/

set_option autoImplicit false

namespace SparkGateway.Spec

open Lib

/-! ### Tokens -/

/-- `serde_json::Value`. Null, booleans, numbers and objects are never read. -/
inductive JsonValue where
  | string (s : String)
  | array (items : List JsonValue)
  | other

/-- `as_str`. -/
def JsonValue.asStr : JsonValue → Option String
  | .string s => some s
  | _ => none

/-- `as_array`. -/
def JsonValue.asArray : JsonValue → Option (List JsonValue)
  | .array items => some items
  | _ => none

/-- `HashMap<String, serde_json::Value>`. -/
abbrev Claims : Type := String → Option JsonValue

/-- `jsonwebtoken::Header`. -/
structure TokenHeader where
  kid : Option String
deriving DecidableEq, Repr

/-- `jsonwebtoken::errors::ErrorKind`. The authenticators only log it. -/
inductive JwtErrorKind where
  | expiredSignature
  | other (name : String)
deriving DecidableEq, Repr

/-- A `jsonwebtoken::DecodingKey`: from a secret, from a PEM file, or from the JWKS. -/
inductive VerificationKey where
  | secret (bytes : List UInt8)
  | pem (bytes : List UInt8)
  | jwks (key : DecodingKey)
deriving DecidableEq, Repr

/-- `jsonwebtoken::Algorithm`. -/
inductive TokenAlgorithm where
  | hs256 | hs384 | hs512
  | asymmetric (algorithm : Algorithm)
deriving DecidableEq, Repr

/-- `jsonwebtoken::Validation`, in the fields that the authenticators set. -/
structure Validation where
  algorithms : List TokenAlgorithm
  issuer : Option String
  audience : Option String
  validateAud : Bool
deriving DecidableEq, Repr

/-- The functions of the `jsonwebtoken` crate, `decode` at a time in seconds. -/
structure Jsonwebtoken where
  decodeHeader : String → Except JwtErrorKind TokenHeader
  decode : (now : ℕ) → String → VerificationKey → Validation → Except JwtErrorKind Claims

/-! ### Claims -/

/-- Which claims become the identity. -/
structure ClaimNames where
  userIdClaim : String
  tenantClaim : Option String
  groupsClaim : Option String
deriving DecidableEq, Repr

namespace ClaimNames

/-- The user id claim, if it is a string. -/
def userId (names : ClaimNames) (claims : Claims) : Option String :=
  (claims names.userIdClaim).bind JsonValue.asStr

/-- The tenant claim, if one is configured and it is a string. -/
def tenant (names : ClaimNames) (claims : Claims) : Option String :=
  (names.tenantClaim.bind claims).bind JsonValue.asStr

/-- The strings of the groups claim, if it is an array. -/
def groups (names : ClaimNames) (claims : Claims) : List String :=
  (((names.groupsClaim.bind claims).bind JsonValue.asArray).map fun items =>
    items.filterMap JsonValue.asStr).getD []

/-- The end of both `authenticate`s. -/
def identity (names : ClaimNames) (claims : Claims) : Except AuthFailure Identity :=
  match names.userId claims with
  | none =>
    .error (.refused
      (Status.unauthenticated ("JWT missing required claim " ++ debugStr names.userIdClaim)))
  | some userId => .ok ⟨userId, names.tenant claims, names.groups claims⟩

/-- Both `authenticate`s from the `decode` on, at the time that it has read. -/
def verify (lib : Jsonwebtoken) (names : ClaimNames) (key : VerificationKey)
    (validation : Validation) (token : String) (now : ℕ) : Except AuthFailure Identity :=
  match lib.decode now token key validation with
  | .error _ => .error (.refused (Status.unauthenticated "invalid JWT"))
  | .ok claims => names.identity claims

end ClaimNames

/-! ### The authenticators -/

/-- `JwtAuthenticator`. -/
structure JwtAuthenticator extends ClaimNames where
  decodingKey : VerificationKey
  validation : Validation
deriving DecidableEq, Repr

/-- `JwtAuthenticator::authenticate`. -/
def JwtAuthenticator.authenticate (lib : Jsonwebtoken) (auth : JwtAuthenticator)
    (metadata : MetadataMap) : Prog OidcSig (Except AuthFailure Identity) :=
  match requireToken metadata with
  | .error failure => pure (.error failure)
  | .ok token => do
    let now : ℕ ← OidcCmd.timestamp.call
    pure (auth.verify lib auth.decodingKey auth.validation token now)

/-- `OidcAuthenticator` with the fields that the check of a token reads. -/
structure OidcVerifier extends OidcAuthenticator, ClaimNames where
  issuer : Option String
  audience : Option String
deriving DecidableEq, Repr

namespace OidcVerifier

/-- `validation`. Without an audience in the configuration it is not checked. -/
def validation (auth : OidcVerifier) : Validation :=
  ⟨auth.algorithms.map .asymmetric, auth.issuer, auth.audience, auth.audience.isSome⟩

/-- `OidcAuthenticator::authenticate`. -/
def authenticate (lib : Jsonwebtoken) (parsers : KeyParsers) (auth : OidcVerifier)
    (metadata : MetadataMap) : Prog OidcSig (Except AuthFailure Identity) :=
  match requireToken metadata with
  | .error failure => pure (.error failure)
  | .ok token =>
    match lib.decodeHeader token with
    | .error _ => pure (.error (.refused (Status.unauthenticated "invalid JWT header")))
    | .ok header =>
      match header.kid with
      | none =>
        pure (.error (.refused
          (Status.unauthenticated "JWT missing kid; OIDC requires keyed JWTs")))
      | some kid => do
        match ← auth.keyFor parsers kid with
        | none => pure (.error (.refused (Status.unauthenticated "JWT kid not in JWKS")))
        | some key =>
          let now : ℕ ← OidcCmd.timestamp.call
          pure (auth.verify lib (.jwks key) auth.validation token now)

end OidcVerifier

/-- `dyn Authenticator`, of those that can refuse a request. -/
inductive Authenticator where
  | staticToken (auth : StaticTokenAuthenticator) (iteration : auth.inner.Iteration)
  | jwt (auth : JwtAuthenticator)
  | oidc (auth : OidcVerifier)

/-- `Authenticator::authenticate`. -/
def Authenticator.authenticate (lib : Jsonwebtoken) (parsers : KeyParsers)
    (metadata : MetadataMap) : Authenticator → Prog OidcSig (Except AuthFailure Identity)
  | .staticToken auth iteration => pure (auth.authenticate iteration metadata)
  | .jwt auth => auth.authenticate lib metadata
  | .oidc auth => auth.authenticate lib parsers metadata

end SparkGateway.Spec
