import SparkGateway.Spec.Handler

/-!
# `SparkGateway.Spec.Sequential`: one RPC after another

An `Env` holds what the outside world answers during one RPC: the authenticator, the limiter,
the pools, the dialer, the backends, and for an upload the interleaving of its forwarding task.
Every answer is arbitrary, and a run has a fresh `Env` for each RPC, so pools, limiters and
backends can change in any way between them.

`runRpc` runs a handler alone on a store. `effects` keeps what the run of a handler did to the
world: the addresses it picked, the requests and uploads it sent, and the audit events it wrote.
-/

set_option autoImplicit false

namespace SparkGateway.Spec

open SparkGateway.Lib

/-- What the outside world answers during one RPC. -/
structure Env where
  requestId : String
  authenticate : MetadataMap → Except Status Identity
  check : String → String → Verdict
  pick : PoolId → Option String
  channel : String → Except String Unit
  call : String → String → Request → Except Status Response
  uploadMoves : List ForwarderMove
  uploadAnswer : String → String → List AddArtifactsRequest → Except Status Response

section
variable {S : Sig} {σ : Type}

/-- Picks answered by a fixed environment. -/
def poolHandler (env : Env) : Handler PoolSig σ
  | .pick pool, s => (env.pick pool, s)

/-- The handler's other effects answered by a fixed environment. -/
def proxyHandler (env : Env) : Handler ProxySig σ
  | .requestId, s => (env.requestId, s)
  | .authenticate md, s => (env.authenticate md, s)
  | .check tenant userId, s => (env.check tenant userId, s)
  | .channel addr, s => (env.channel addr, s)
  | .call addr rid req, s => (env.call addr rid req, s)
  | .addArtifacts addr rid first rest, s =>
      -- The backend's answer can depend on how much of the stream reached it.
      let delivered := ((Forwarder.start first rest).run env.uploadMoves).delivered
      (⟨delivered, env.uploadAnswer addr rid delivered⟩, s)
  | .audit _, s => ((), s)
  | .recordAuthFailure _, s => ((), s)
  | .recordRpc _ _, s => ((), s)

/-- The answers for a handler: the store does what `h` says, everything else what `env` says. -/
def gatewayHandler (env : Env) (h : Handler S σ) : Handler (GatewaySig S) σ :=
  Handler.sum (Handler.sum (poolHandler env) h) (proxyHandler env)

/-- One RPC, handled alone. -/
def runRpc (gw : Gateway S) (h : Handler S σ) (env : Env) (rpc : Rpc) (s : σ) :
    Outcome (GatewaySig S) σ (Except Status Response) :=
  Prog.exec (gatewayHandler env h) (gw.handle rpc) s

/-- The store after some RPCs, handled one after another. -/
def storeAfter (gw : Gateway S) (h : Handler S σ) (steps : List (Env × Rpc)) (s : σ) : σ :=
  steps.foldl (fun s step => (runRpc gw h step.1 step.2 s).state) s

/-! ### A world in which everything works -/

/-- The caller is `identity`, every pool picks `addr`, and every backend answers Ok. -/
def Env.healthy (identity : Identity) (addr : String) : Env where
  requestId := "rid"
  authenticate _ := .ok identity
  check _ _ := .admitted
  pick _ := some addr
  channel _ := .ok ()
  call _ _ _ := .ok (.unary [])
  uploadMoves := []
  uploadAnswer _ _ _ := .ok (.unary [])

/-- A gateway with an in-process store and without a limiter, its other settings at their
defaults. -/
def Gateway.inProcess (tenants : TenantRouter) : Gateway MemorySig :=
  ⟨⟨tenants, MemoryStore.store⟩, .default, false, .default⟩

/-- One pool for every tenant. -/
def TenantRouter.single (pool : PoolId) : TenantRouter := ⟨fun _ => none, some pool, .useDefault⟩

/-! ### Effects -/

/-- What a handler does to the world. -/
inductive Effect where
  | picked (pool : PoolId) (addr : String)
  | sent (addr rid : String) (req : Request)
  | uploaded (addr rid : String) (delivered : List AddArtifactsRequest)
  | audited (event : AuditEvent)
deriving DecidableEq

/-- The effect of one command. -/
def effectOf : Event (GatewaySig S) → Option Effect
  | ⟨.inl (.inl (.pick pool)), addr⟩ => (addr : Option String).map (.picked pool)
  | ⟨.inl (.inr _), _⟩ => none
  | ⟨.inr (.call addr rid req), _⟩ => some (.sent addr rid req)
  | ⟨.inr (.addArtifacts addr rid _ _), reply⟩ =>
      some (.uploaded addr rid (UploadReply.delivered reply))
  | ⟨.inr (.audit event), _⟩ => some (.audited event)
  | ⟨.inr _, _⟩ => none

/-- The effects of a run, in order. -/
def effects (t : List (Event (GatewaySig S))) : List Effect := t.filterMap effectOf

end

/-- The address an effect contacts. -/
def Effect.contact : Effect → Option String
  | .sent addr _ _ => some addr
  | .uploaded addr _ _ => some addr
  | _ => none

/-- The addresses that a run of a handler forwarded to. -/
def contacts (es : List Effect) : List String := es.filterMap Effect.contact

/-- The audit event an effect writes. -/
def Effect.event : Effect → Option AuditEvent
  | .audited event => some event
  | _ => none

/-- The audit events that a run of a handler wrote. -/
def audits (es : List Effect) : List AuditEvent := es.filterMap Effect.event

end SparkGateway.Spec
