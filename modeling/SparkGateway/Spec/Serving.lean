import SparkGateway.Lib.Suspend
import SparkGateway.Spec.Metrics

/-!
# `SparkGateway.Spec.Serving`: an RPC from its first poll to its last drop

`Spec/Handler.lean` has what a handler does when it is left to run. Here a handler is the future
that the server polls (`crates/proxy/src/handler.rs`). While it awaits the authenticator, the
limiter, the affinity store or a backend it can be dropped, when the client goes away. Two guards
(`crates/observability/src/metrics.rs`) then do what is left:

* the `RpcGuard` counts the RPC when it is dropped, with the code that `finalise_guard` gave it, or
  else as `Cancelled`;
* the `StreamGuard` of a streaming RPC holds one unit of the gauge `scg_active_streams`.
  `ExecutePlan` and `ReattachExecute` hand it on to the response stream, `AddArtifacts` keeps it in
  the handler.

`serve` is the whole life of an RPC, with the commands of the handler and those of the gauge. A
response stream is polled item by item and can be dropped before each of them. `finalise_rpc` and
the drops are not interrupted.
-/

set_option autoImplicit false

namespace SparkGateway.Spec

open SparkGateway.Lib

/-- Who holds the `StreamGuard` of an RPC after the handler has returned. -/
inductive StreamKind where
  /-- There is no guard. -/
  | unary
  /-- The response stream holds it. -/
  | response
  /-- Nobody: the handler drops it. -/
  | upload
deriving DecidableEq, Repr

/-- A suspension, with whether the future is polled again, and the steps of `scg_active_streams`. -/
inductive ServingCmd where
  | suspend
  | inc
  | dec
deriving DecidableEq, Repr

/-- A suspension returns whether the future is polled again. -/
abbrev ServingCmd.Reply : ServingCmd → Type
  | .suspend => Bool
  | .inc => Unit
  | .dec => Unit

/-- The effects of the server around a handler, each one atomic step. -/
abbrev ServingSig : Sig := ⟨ServingCmd, ServingCmd.Reply⟩

/-- The commands of a served RPC over a store with the commands `S`. -/
abbrev ServeSig (S : Sig) : Sig := (GatewaySig S).sum ServingSig

section
variable {S : Sig}

/-- The commands that a handler awaits. The pool and the dialer answer at once, and so do the audit
log and the metrics. -/
def awaited : (GatewaySig S).Cmd → Bool
  | .inl (.inl (.pick _)) => false
  | .inl (.inr _) => true
  | .inr (.authenticate _) => true
  | .inr (.check _ _) => true
  | .inr (.call _ _ _) => true
  | .inr (.addArtifacts _ _ _ _) => true
  | .inr _ => false

/-- Wait, and return whether the future is polled again. -/
def suspend : Prog ServingSig Bool := Prog.perform (S := ServingSig) .suspend

/-! ### The guards -/

/-- `Metrics::stream_guard`, for an RPC that has one. -/
def streamGuard (kind : StreamKind) : Prog (ServeSig S) Unit :=
  if kind = .unary then pure () else (Prog.perform (S := ServingSig) .inc).inr

/-- `StreamGuard::drop`, if the guard is held. -/
def dropStreamGuard (held : Bool) : Prog (ServeSig S) Unit :=
  if held then (Prog.perform (S := ServingSig) .dec).inr else pure ()

/-- `RpcGuard::drop`. -/
def dropRpcGuard (guard : RpcGuard) : Prog (ServeSig S) Unit :=
  (recordRpc guard.drop.1 guard.drop.2).inl

/-! ### The life of an RPC -/

/-- The stream of `forward_server_stream`: it holds the guard until its end, or until it is
dropped. -/
def streamOut : List StreamItem → Prog (ServeSig S) Unit
  | [] => dropStreamGuard true
  | _ :: rest => suspend.inr >>= fun resumed =>
      if resumed then streamOut rest else dropStreamGuard true

/-- The items of a response stream. -/
def responseItems : Response → List StreamItem
  | .stream messages ending => streamItems messages ending
  | _ => []

namespace Gateway

/-- The part of a handler up to its result, which is what can be suspended: the request id, the
audit context and the result. -/
def attempt (gw : Gateway S) (rpc : String) (metadata : MetadataMap)
    (body : String → Identity → String → RpcM S Response) :
    Prog (GatewaySig S) (String × Option (String × String) × Except Status Response) := do
  let rid ← requestId
  match ← (gw.authenticateAndResolve metadata rid rpc).run with
  | .error status => pure (rid, none, .error status)
  | .ok (identity, tenant) =>
    let result ← (body rid identity tenant).run
    pure (rid, some (tenant, identity.userId), result)

/-- What follows the result, without a suspension. -/
def conclude (gw : Gateway S) (kind : StreamKind) (rpc rid : String)
    (ctx : Option (String × String)) (result : Except Status Response) :
    Prog (ServeSig S) Unit := do
  -- The block still has the guard of a response that it could not build.
  dropStreamGuard (kind = .response && !result.isOk)
  (gw.finaliseRpc result ctx rid rpc).inl
  dropStreamGuard (kind = .upload)
  dropRpcGuard (finaliseGuard (RpcGuard.new rpc) result)

/-- The response stream, if there is one. -/
def respond : StreamKind → Except Status Response → Prog (ServeSig S) Unit
  | .response, .ok response => streamOut (responseItems response)
  | _, _ => pure ()

/-- A handler and its response. `none` if the handler was dropped. -/
def serveRpc (gw : Gateway S) (kind : StreamKind) (rpc : String) (metadata : MetadataMap)
    (body : String → Identity → String → RpcM S Response) :
    Prog (ServeSig S) (Option (Except Status Response)) := do
  streamGuard kind
  match ← Prog.suspendable suspend awaited (gw.attempt rpc metadata body) with
  | none =>
    dropStreamGuard (kind != .unary)
    dropRpcGuard (RpcGuard.new rpc)
    pure none
  | some (rid, ctx, result) =>
    gw.conclude kind rpc rid ctx result
    respond kind result
    pure (some result)

/-- An inbound RPC. -/
def serve (gw : Gateway S) : Rpc → Prog (ServeSig S) (Option (Except Status Response))
  | .request md (.analyzePlan m) =>
      gw.serveRpc .unary "AnalyzePlan" md (gw.sessionBody .analyzePlan m)
  | .request md (.config m) => gw.serveRpc .unary "Config" md (gw.sessionBody .config m)
  | .request md (.artifactStatus m) =>
      gw.serveRpc .unary "ArtifactStatus" md (gw.sessionBody .artifactStatus m)
  | .request md (.interrupt m) => gw.serveRpc .unary "Interrupt" md (gw.interruptBody m)
  | .request md (.releaseExecute m) =>
      gw.serveRpc .unary "ReleaseExecute" md (gw.releaseExecuteBody m)
  | .request md (.releaseSession m) =>
      gw.serveRpc .unary "ReleaseSession" md (gw.releaseSessionBody m)
  | .request md (.fetchErrorDetails m) =>
      gw.serveRpc .unary "FetchErrorDetails" md (gw.sessionBody .fetchErrorDetails m)
  | .request md (.cloneSession m) =>
      gw.serveRpc .unary "CloneSession" md (gw.sessionBody .cloneSession m)
  | .request md (.getStatus m) => gw.serveRpc .unary "GetStatus" md (gw.sessionBody .getStatus m)
  | .request md (.executePlan m) =>
      gw.serveRpc .response "ExecutePlan" md (gw.executePlanBody m)
  | .request md (.reattachExecute m) =>
      gw.serveRpc .response "ReattachExecute" md (gw.reattachExecuteBody m)
  | .addArtifacts md inbound =>
      gw.serveRpc .upload "AddArtifacts" md (gw.addArtifactsBody inbound)

end Gateway

end

/-- The streaming RPCs. -/
def Rpc.streamKind : Rpc → StreamKind
  | .request _ (.executePlan _) => .response
  | .request _ (.reattachExecute _) => .response
  | .addArtifacts _ _ => .upload
  | _ => .unary

/-- The code that an RPC is counted with: that of its result, or `Cancelled` if it was dropped. -/
def servedLabel : Option (Except Status Response) → String
  | none => "Cancelled"
  | some result => resultLabel result

end SparkGateway.Spec
