import SparkGateway.Spec.ArtifactStream
import SparkGateway.Spec.Audit
import SparkGateway.Spec.RateLimit
import SparkGateway.Spec.Routing
import SparkGateway.Spec.Tenant

/-!
# `SparkGateway.Spec.Handler`: the twelve RPC handlers

`SparkConnectProxy` of `crates/proxy/src/handler.rs`. A handler is a program over the commands
of the router and those of `ProxyCmd`: authentication, the rate limiter, the dialer, the call
to the backend, the audit log and the metrics. What the source awaits or logs is a command, in
the source's order. Tracing spans, log lines and the gauge of active streams are left out.

All handlers share a frame (`handleRpc`): the correlation id, authentication and tenant, the
body, and `finalise_rpc`. The bodies differ in how they route and in what they do around the
call. Six of them only route by session and forward (`sessionBody`).

`?` in the source is the bind of `RpcM`.
-/

set_option autoImplicit false

namespace SparkGateway.Spec

open SparkGateway.Lib

/-! ### Commands -/

/-- What a handler does besides routing. -/
inductive ProxyCmd where
  | requestId
  | authenticate (metadata : MetadataMap)
  | check (tenant userId : String)
  | channel (addr : String)
  | call (addr rid : String) (req : Request)
  | addArtifacts (addr rid : String) (first : AddArtifactsRequest) (rest : ClientStream)
  | audit (event : AuditEvent)
  | recordAuthFailure (reason : String)
  | recordRpc (rpc code : String)

/-- What became of an upload: the messages that the backend received, and its answer. -/
structure UploadReply where
  delivered : List AddArtifactsRequest
  answer : Except Status Response

/-- What each effect of a handler outside the store and the pools returns. -/
abbrev ProxyCmd.Reply : ProxyCmd → Type
  | .requestId => String
  | .authenticate _ => Except Status Identity
  | .check _ _ => Verdict
  | .channel _ => Except String Unit
  | .call _ _ _ => Except Status Response
  | .addArtifacts _ _ _ _ => UploadReply
  | .audit _ => Unit
  | .recordAuthFailure _ => Unit
  | .recordRpc _ _ => Unit

/-- The effects of a handler outside the store and the pools, each one atomic step. -/
abbrev ProxySig : Sig := ⟨ProxyCmd, ProxyCmd.Reply⟩

/-- The commands of a handler over a store with the commands `S`. -/
abbrev GatewaySig (S : Sig) : Sig := (RouterSig S).sum ProxySig

/-- The components of `SparkConnectProxy` that decide. `rateLimited` says whether a limiter is
configured. -/
structure Gateway (S : Sig) where
  router : Router S
  tenantResolver : TenantResolver
  rateLimited : Bool
  audit : AuditConfig

/-- A handler computation: a `Status` ends it. -/
abbrev RpcM (S : Sig) := ExceptT Status (Prog (GatewaySig S))

section
variable {S : Sig} {α : Type}

/-- Perform a command of the proxy. -/
def proxy (c : ProxyCmd) : Prog (GatewaySig S) (ProxyCmd.Reply c) :=
  (Prog.perform (S := ProxySig) c).inr

/-- The request id a handler makes for its RPC. -/
def requestId : Prog (GatewaySig S) String := proxy .requestId

/-- The configured authenticator on the request's metadata. -/
def runAuthenticator (metadata : MetadataMap) : Prog (GatewaySig S) (Except Status Identity) :=
  proxy (.authenticate metadata)

/-- `RateLimiter::check`. -/
def runLimiter (tenant userId : String) : Prog (GatewaySig S) Verdict :=
  proxy (.check tenant userId)

/-- `Dialer::channel`. -/
def dial (addr : String) : Prog (GatewaySig S) (Except String Unit) := proxy (.channel addr)

/-- The call of the backend's method with the handler's request id. -/
def callBackend (addr rid : String) (req : Request) :
    Prog (GatewaySig S) (Except Status Response) := proxy (.call addr rid req)

/-- The streaming call of the backend's `AddArtifacts`. -/
def callUpload (addr rid : String) (first : AddArtifactsRequest) (rest : ClientStream) :
    Prog (GatewaySig S) UploadReply := proxy (.addArtifacts addr rid first rest)

/-- The line that the audit logger writes. -/
def writeAudit (event : AuditEvent) : Prog (GatewaySig S) Unit := proxy (.audit event)

/-- `Metrics::record_auth_failure`. -/
def recordAuthFailure (reason : String) : Prog (GatewaySig S) Unit :=
  proxy (.recordAuthFailure reason)

/-- `Metrics::record_rpc`. -/
def recordRpc (rpc code : String) : Prog (GatewaySig S) Unit := proxy (.recordRpc rpc code)

/-- Run a function of the router. -/
def route (p : Prog (RouterSig S) α) : Prog (GatewaySig S) α := p.inl

namespace Gateway

/-- Write an audit event, unless the logger's switches drop it. -/
def emit (gw : Gateway S) (event : AuditEvent) : Prog (GatewaySig S) Unit :=
  if gw.audit.writes event then writeAudit event else pure ()

end Gateway

/-! ### Labels, keys and stamps -/

/-- Whether a text contains another one. -/
def containsText (text part : String) : Bool :=
  text.toList.tails.any fun rest => part.toList.isPrefixOf rest

/-- `auth_failure_reason`. -/
def authFailureReason (status : Status) : String :=
  if containsText status.message "missing" then "missing_token"
  else if containsText status.message "expired" then "expired"
  else if containsText status.message "kid" then "unknown_kid"
  else if containsText status.message "invalid" then "invalid_token"
  else "unknown"

/-- `status_code_label`. -/
def statusCodeLabel (status : Status) : String :=
  match status.code with
  | .ok => "OK"
  | .cancelled => "Cancelled"
  | .unknown => "Unknown"
  | .invalidArgument => "InvalidArgument"
  | .deadlineExceeded => "DeadlineExceeded"
  | .notFound => "NotFound"
  | .alreadyExists => "AlreadyExists"
  | .permissionDenied => "PermissionDenied"
  | .resourceExhausted => "ResourceExhausted"
  | .failedPrecondition => "FailedPrecondition"
  | .aborted => "Aborted"
  | .outOfRange => "OutOfRange"
  | .unimplemented => "Unimplemented"
  | .internal => "Internal"
  | .unavailable => "Unavailable"
  | .dataLoss => "DataLoss"
  | .unauthenticated => "Unauthenticated"

/-- The code that `finalise_guard` records. -/
def resultLabel : Except Status Response → String
  | .ok _ => "OK"
  | .error status => statusCodeLabel status

/-- `key_from_identity`. -/
def keyFromIdentity (tenant sessionId : String) (id : Identity) : SessionKey :=
  SessionKey.withTenant tenant id.userId sessionId

/-- `stamp_user_context`. -/
def stampUserContext (uc : Option UserContext) (id : Identity) : Option UserContext :=
  match uc with
  | some ctx => some { ctx with userId := id.userId }
  | none => some { UserContext.default with userId := id.userId }

/-- A message with its user context stamped. -/
def Message.stamp {β : Type} (m : Message β) (id : Identity) : Message β :=
  { m with userContext := stampUserContext m.userContext id }

/-- `require_addr`. -/
def requireAddr : Except Status (Option String) → Except Status String
  | .error status => .error status
  | .ok none => .error (.unavailable "no healthy backend available")
  | .ok (some addr) => .ok addr

/-! ### The steps of a handler -/

namespace Gateway

/-- `client`: a channel to the backend. -/
def client (addr : String) : RpcM S Unit := ExceptT.mk do
  match ← dial addr with
  | .ok () => pure (.ok ())
  | .error e => pure (.error (.unavailable ("dial backend " ++ addr ++ ": " ++ e)))

/-- `authenticate`: a refused caller is counted and audited. -/
def authenticate (gw : Gateway S) (metadata : MetadataMap) (rid rpc : String) :
    RpcM S Identity := ExceptT.mk do
  match ← runAuthenticator metadata with
  | .ok identity => pure (.ok identity)
  | .error status =>
    -- The label is read off the message, the client gets the status itself.
    let reason := authFailureReason status
    recordAuthFailure reason
    gw.emit (.authFailure rid rpc reason)
    pure (.error status)

/-- The limiter's `check`, if a limiter is configured. -/
def limit (gw : Gateway S) (tenant userId : String) : RpcM S Unit := ExceptT.mk do
  if gw.rateLimited then
    -- A rejection leaves here with `?`: no audit context is set yet.
    let verdict ← runLimiter tenant userId
    pure (Verdict.toResult tenant userId verdict)
  else pure (.ok ())

/-- The tenant of a caller. A missing one counts as an authentication failure. -/
def resolveTenant (gw : Gateway S) (metadata : MetadataMap) (identity : Identity)
    (rid rpc : String) : RpcM S String := ExceptT.mk do
  match gw.tenantResolver.resolve metadata identity with
  | .ok tenant => pure (.ok tenant)
  | .error status =>
    recordAuthFailure "missing_tenant"
    gw.emit (.authFailure rid rpc "missing_tenant")
    pure (.error status)

/-- `authenticate_and_resolve`: the identity, the tenant, and a token of the limiter. -/
def authenticateAndResolve (gw : Gateway S) (metadata : MetadataMap) (rid rpc : String) :
    RpcM S (Identity × String) := do
  let identity ← gw.authenticate metadata rid rpc
  let tenant ← gw.resolveTenant metadata identity rid rpc
  gw.limit tenant identity.userId
  pure (identity, tenant)

/-- `resolve_session_audited`: `session.create` is written when the binding is new. -/
def resolveSessionAudited (gw : Gateway S) (key : SessionKey) (rid : String)
    (identity : Identity) : Prog (GatewaySig S) (Except Status (Option String)) := do
  match ← route (gw.router.resolveSessionDetailed key) with
  | .error status => pure (.error status)
  | .ok none => pure (.ok none)
  | .ok (some o) =>
    if o.newlyBound then
      gw.emit (.sessionCreate rid key.tenant identity.userId (",".intercalate identity.groups)
        key.sessionId o.addr)
    pure (.ok (some o.addr))

/-- Route by session. -/
def sessionAddr (gw : Gateway S) (key : SessionKey) (rid : String) (identity : Identity) :
    RpcM S String := ExceptT.mk do
  let addr ← gw.resolveSessionAudited key rid identity
  pure (requireAddr addr)

/-- Route by operation. -/
def opAddr (gw : Gateway S) (opId : String) (key : SessionKey) : RpcM S String := ExceptT.mk do
  let addr ← route (gw.router.resolveOp opId key)
  pure (requireAddr addr)

/-- Send the request to the backend. -/
def forward (addr rid : String) (req : Request) : RpcM S Response := do
  client addr
  ExceptT.mk (callBackend addr rid req)

/-- `finalise_rpc`, less the guard. Without an audit context nothing is written, and neither
is a cancelled call. -/
def finaliseRpc (gw : Gateway S) (result : Except Status Response)
    (ctx : Option (String × String)) (rid rpc : String) : Prog (GatewaySig S) Unit :=
  match ctx, result with
  | none, _ => pure ()
  | some (tenant, userId), .ok _ => gw.emit (.rpcOk rid rpc tenant userId)
  | some (tenant, userId), .error status =>
      if status.code = .cancelled then pure ()
      else gw.emit (.rpcError rid rpc tenant userId (statusCodeLabel status) status.message)

/-- The frame of every handler. The audit context is filled once the caller, the tenant and
the limiter have agreed. The guard records the final code when it is dropped, at the end. -/
def handleRpc (gw : Gateway S) (rpc : String) (metadata : MetadataMap)
    (body : String → Identity → String → RpcM S Response) :
    Prog (GatewaySig S) (Except Status Response) := do
  let rid ← requestId
  match ← (gw.authenticateAndResolve metadata rid rpc).run with
  | .error status =>
    -- The context is still `AuditCtx::default()`.
    gw.finaliseRpc (.error status) none rid rpc
    recordRpc rpc (resultLabel (.error status))
    pure (.error status)
  | .ok (identity, tenant) =>
    let result ← (body rid identity tenant).run
    gw.finaliseRpc result (some (tenant, identity.userId)) rid rpc
    recordRpc rpc (resultLabel result)
    pure result

/-! ### The bodies -/

/-- The body of a handler that routes by session and forwards. -/
def sessionBody (gw : Gateway S) (wrap : Message Payload → Request) (m : Message Payload)
    (rid : String) (identity : Identity) (tenant : String) : RpcM S Response := do
  let body := m.stamp identity
  let key := keyFromIdentity tenant body.sessionId identity
  let addr ← gw.sessionAddr key rid identity
  forward addr rid (wrap body)

/-- `interrupt`: by operation when the request names one, else by session. -/
def interruptBody (gw : Gateway S) (m : Message InterruptBody) (rid : String)
    (identity : Identity) (tenant : String) : RpcM S Response := do
  let body := m.stamp identity
  let key := keyFromIdentity tenant body.sessionId identity
  let opId := match body.body.interrupt with
    | some (.operationId id) => id
    | _ => ""
  let addr ← gw.opAddr opId key
  forward addr rid (.interrupt body)

/-- `release_execute`: the operation is forgotten when the backend answers Ok. -/
def releaseExecuteBody (gw : Gateway S) (m : Message ReleaseExecuteBody) (rid : String)
    (identity : Identity) (tenant : String) : RpcM S Response := do
  let body := m.stamp identity
  let key := keyFromIdentity tenant body.sessionId identity
  let opId := body.body.operationId
  let addr ← gw.opAddr opId key
  let resp ← forward addr rid (.releaseExecute body)
  -- Whatever the `release` oneof asked for.
  ExceptT.lift (route (gw.router.forgetOp opId))
  pure resp

/-- `release_session`: the session is forgotten when the backend answers Ok. -/
def releaseSessionBody (gw : Gateway S) (m : Message Payload) (rid : String)
    (identity : Identity) (tenant : String) : RpcM S Response := do
  let body := m.stamp identity
  let key := keyFromIdentity tenant body.sessionId identity
  let addr ← gw.sessionAddr key rid identity
  let resp ← forward addr rid (.releaseSession body)
  ExceptT.lift (route (gw.router.forgetSession key))
  ExceptT.lift (gw.emit (.sessionRelease rid key.tenant identity.userId
    (",".intercalate identity.groups) key.sessionId addr))
  pure resp

/-- `execute_plan`: a client-supplied operation id is bound before the call. -/
def executePlanBody (gw : Gateway S) (m : Message ExecutePlanBody) (rid : String)
    (identity : Identity) (tenant : String) : RpcM S Response := do
  let body := m.stamp identity
  let key := keyFromIdentity tenant body.sessionId identity
  let addr ← gw.sessionAddr key rid identity
  -- Bound before the dial, so also when the backend cannot be reached.
  match body.body.operationId with
  | some opId =>
    if opId != "" then ExceptT.lift (route (gw.router.rememberOp opId addr))
  | none => pure ()
  forward addr rid (.executePlan body)

/-- `reattach_execute`. -/
def reattachExecuteBody (gw : Gateway S) (m : Message ReattachExecuteBody) (rid : String)
    (identity : Identity) (tenant : String) : RpcM S Response := do
  let body := m.stamp identity
  let key := keyFromIdentity tenant body.sessionId identity
  let addr ← gw.opAddr body.body.operationId key
  forward addr rid (.reattachExecute body)

/-- `add_artifacts`: the first message routes the upload. The channel has room for it and its
receiver is alive, so putting it in does not fail. -/
def addArtifactsBody (gw : Gateway S) (inbound : ClientStream) (rid : String)
    (identity : Identity) (tenant : String) : RpcM S Response := do
  match inbound.messages, inbound.ending with
  | [], .done => throw (.invalidArgument "AddArtifacts: empty client stream")
  | [], .error status => throw status
  | m :: rest, ending =>
    -- The messages of `rest` are not stamped: the spawned task only copies them.
    let first := m.stamp identity
    let key := keyFromIdentity tenant first.sessionId identity
    let addr ← gw.sessionAddr key rid identity
    client addr
    let reply ← ExceptT.lift (callUpload addr rid first ⟨rest, ending⟩)
    ExceptT.mk (pure reply.answer)

/-! ### The handlers -/

/-- `analyze_plan`. -/
def analyzePlan (gw : Gateway S) (metadata : MetadataMap) (m : Message Payload) :=
  gw.handleRpc "AnalyzePlan" metadata (gw.sessionBody .analyzePlan m)

/-- `config`. -/
def config (gw : Gateway S) (metadata : MetadataMap) (m : Message Payload) :=
  gw.handleRpc "Config" metadata (gw.sessionBody .config m)

/-- `artifact_status`. -/
def artifactStatus (gw : Gateway S) (metadata : MetadataMap) (m : Message Payload) :=
  gw.handleRpc "ArtifactStatus" metadata (gw.sessionBody .artifactStatus m)

/-- `interrupt`. -/
def interrupt (gw : Gateway S) (metadata : MetadataMap) (m : Message InterruptBody) :=
  gw.handleRpc "Interrupt" metadata (gw.interruptBody m)

/-- `release_execute`. -/
def releaseExecute (gw : Gateway S) (metadata : MetadataMap) (m : Message ReleaseExecuteBody) :=
  gw.handleRpc "ReleaseExecute" metadata (gw.releaseExecuteBody m)

/-- `release_session`. -/
def releaseSession (gw : Gateway S) (metadata : MetadataMap) (m : Message Payload) :=
  gw.handleRpc "ReleaseSession" metadata (gw.releaseSessionBody m)

/-- `fetch_error_details`. -/
def fetchErrorDetails (gw : Gateway S) (metadata : MetadataMap) (m : Message Payload) :=
  gw.handleRpc "FetchErrorDetails" metadata (gw.sessionBody .fetchErrorDetails m)

/-- `clone_session`. -/
def cloneSession (gw : Gateway S) (metadata : MetadataMap) (m : Message Payload) :=
  gw.handleRpc "CloneSession" metadata (gw.sessionBody .cloneSession m)

/-- `get_status`. -/
def getStatus (gw : Gateway S) (metadata : MetadataMap) (m : Message Payload) :=
  gw.handleRpc "GetStatus" metadata (gw.sessionBody .getStatus m)

/-- `execute_plan`. -/
def executePlan (gw : Gateway S) (metadata : MetadataMap) (m : Message ExecutePlanBody) :=
  gw.handleRpc "ExecutePlan" metadata (gw.executePlanBody m)

/-- `reattach_execute`. -/
def reattachExecute (gw : Gateway S) (metadata : MetadataMap) (m : Message ReattachExecuteBody) :=
  gw.handleRpc "ReattachExecute" metadata (gw.reattachExecuteBody m)

/-- `add_artifacts`. -/
def addArtifacts (gw : Gateway S) (metadata : MetadataMap) (inbound : ClientStream) :=
  gw.handleRpc "AddArtifacts" metadata (gw.addArtifactsBody inbound)

/-- The handler of an inbound RPC. -/
def handle (gw : Gateway S) : Rpc → Prog (GatewaySig S) (Except Status Response)
  | .request md (.analyzePlan m) => gw.analyzePlan md m
  | .request md (.config m) => gw.config md m
  | .request md (.artifactStatus m) => gw.artifactStatus md m
  | .request md (.interrupt m) => gw.interrupt md m
  | .request md (.releaseExecute m) => gw.releaseExecute md m
  | .request md (.releaseSession m) => gw.releaseSession md m
  | .request md (.fetchErrorDetails m) => gw.fetchErrorDetails md m
  | .request md (.cloneSession m) => gw.cloneSession md m
  | .request md (.getStatus m) => gw.getStatus md m
  | .request md (.executePlan m) => gw.executePlan md m
  | .request md (.reattachExecute m) => gw.reattachExecute md m
  | .addArtifacts md inbound => gw.addArtifacts md inbound

end Gateway

end

end SparkGateway.Spec
