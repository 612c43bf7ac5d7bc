import SparkGateway.Spec.Grpc

/-!
# `SparkGateway.Spec.Audit`: the audit trail

The events of `crates/audit/src/lib.rs` with their fields, and the switches of the logger.
An event that the switches drop is not written.
-/

set_option autoImplicit false

namespace SparkGateway.Spec

/-- An audit event. `groups` are joined by commas when they are written out. -/
inductive AuditEvent where
  | sessionCreate (rid tenant userId groups sessionId backend : String)
  | sessionRelease (rid tenant userId groups sessionId backend : String)
  | authFailure (rid rpc reason : String)
  | rpcError (rid rpc tenant userId code message : String)
  | rpcOk (rid rpc tenant userId : String)
deriving DecidableEq, Repr

/-- `AuditConfig`. -/
structure AuditConfig where
  enabled : Bool
  logSuccessfulRpcs : Bool
deriving DecidableEq, Repr

namespace AuditConfig

/-- `AuditConfig::default`. -/
def default : AuditConfig := ⟨true, false⟩

/-- Whether the logger writes an event. -/
def writes (cfg : AuditConfig) : AuditEvent → Bool
  | .rpcOk _ _ _ _ => cfg.enabled && cfg.logSuccessfulRpcs
  | _ => cfg.enabled

end AuditConfig

/-- Whether the event reports a failure. -/
def AuditEvent.isFailure : AuditEvent → Bool
  | .authFailure _ _ _ => true
  | .rpcError _ _ _ _ _ _ => true
  | _ => false

/-- The correlation id of an event. -/
def AuditEvent.rid : AuditEvent → String
  | .sessionCreate rid _ _ _ _ _ => rid
  | .sessionRelease rid _ _ _ _ _ => rid
  | .authFailure rid _ _ => rid
  | .rpcError rid _ _ _ _ _ => rid
  | .rpcOk rid _ _ _ => rid

end SparkGateway.Spec
