import SparkGateway.Spec.Grpc

/-!
# `SparkGateway.Spec.Tenant`: the tenant of a request

`TenantResolver` of `crates/tenant/src/lib.rs`: the tenant comes from the verified identity,
from a metadata header, or is fixed, and the configuration says what a missing one means.
-/

set_option autoImplicit false

namespace SparkGateway.Spec

/-- Where the tenant is looked for. -/
inductive TenantSource where
  | fromClaim
  | fromMetadata (header : String)
  | alwaysDefault
deriving DecidableEq, Repr

/-- What to do when the source has no tenant. -/
inductive OnMissing where
  | useDefault
  | reject
deriving DecidableEq, Repr

/-- `TenantResolverConfig`. -/
structure TenantResolver where
  source : TenantSource
  onMissing : OnMissing
  defaultName : String
deriving DecidableEq, Repr

namespace TenantResolver

/-- `TenantResolverConfig::default`. -/
def default : TenantResolver := ⟨.fromClaim, .useDefault, "default"⟩

/-- What the source has. -/
def candidate (r : TenantResolver) (metadata : MetadataMap) (identity : Identity) :
    Option String :=
  match r.source with
  | .fromClaim => identity.tenant
  | .fromMetadata header => ((metadata header).bind MetadataValue.toStr).filter (· != "")
  | .alwaysDefault => some r.defaultName

/-- The tenant of a request. An empty one counts as missing. -/
def resolve (r : TenantResolver) (metadata : MetadataMap) (identity : Identity) :
    Except Status String :=
  -- An empty default name would be returned as it is.
  let missing :=
    match r.onMissing with
    | .useDefault => .ok r.defaultName
    | .reject => .error (.unauthenticated "tenant required but not provided")
  match r.candidate metadata identity with
  | some t => if t != "" then .ok t else missing
  | none => missing

end TenantResolver

end SparkGateway.Spec
