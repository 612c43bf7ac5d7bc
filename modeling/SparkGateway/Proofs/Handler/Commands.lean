import SparkGateway.Proofs.Handler.Frame

/-!
# `SparkGateway.Proofs.Handler.Commands`: what the body of a handler can do

`bodyOf` is the body of each handler, between the frame's admission and its report, and
`handle_eq` says that every handler is the frame around it.

`Allows P` lists what a set `P` of commands has to contain for the body of an RPC to stay in it,
whatever the replies, and `body_uses` proves for the twelve bodies that this is enough. `BodyCmd`
is one such set: a body routes, dials, writes audit events that report no failure, and sends
nothing but the client's own message with the caller's identity stamped on it, or the client's
stream with its first message stamped. `admission_uses` and `finaliseRpc_uses` are the rules for
the steps of the frame before and after the body.
-/

set_option autoImplicit false

namespace SparkGateway.Proofs.Handler

open SparkGateway.Lib
open SparkGateway.Spec

/-- A request with its user context stamped. -/
def stampRequest (id : Identity) : Request → Request
  | .analyzePlan m => .analyzePlan (m.stamp id)
  | .config m => .config (m.stamp id)
  | .artifactStatus m => .artifactStatus (m.stamp id)
  | .interrupt m => .interrupt (m.stamp id)
  | .releaseExecute m => .releaseExecute (m.stamp id)
  | .releaseSession m => .releaseSession (m.stamp id)
  | .fetchErrorDetails m => .fetchErrorDetails (m.stamp id)
  | .cloneSession m => .cloneSession (m.stamp id)
  | .getStatus m => .getStatus (m.stamp id)
  | .executePlan m => .executePlan (m.stamp id)
  | .reattachExecute m => .reattachExecute (m.stamp id)

section
variable {S : Sig} {α β : Type}

/-- The body of the handler of an RPC. -/
def bodyOf (gw : Gateway S) : Rpc → String → Identity → String → RpcM S Response
  | .request _ (.analyzePlan m) => gw.sessionBody .analyzePlan m
  | .request _ (.config m) => gw.sessionBody .config m
  | .request _ (.artifactStatus m) => gw.sessionBody .artifactStatus m
  | .request _ (.interrupt m) => gw.interruptBody m
  | .request _ (.releaseExecute m) => gw.releaseExecuteBody m
  | .request _ (.releaseSession m) => gw.releaseSessionBody m
  | .request _ (.fetchErrorDetails m) => gw.sessionBody .fetchErrorDetails m
  | .request _ (.cloneSession m) => gw.sessionBody .cloneSession m
  | .request _ (.getStatus m) => gw.sessionBody .getStatus m
  | .request _ (.executePlan m) => gw.executePlanBody m
  | .request _ (.reattachExecute m) => gw.reattachExecuteBody m
  | .addArtifacts _ inbound => gw.addArtifactsBody inbound

/-- Every handler is the frame around its body. -/
theorem handle_eq (gw : Gateway S) (rpc : Rpc) :
    gw.handle rpc = gw.handleRpc rpc.name rpc.metadata (bodyOf gw rpc) := by
  cases rpc with
  | addArtifacts md inbound => rfl
  | request md req => cases req <;> rfl

section
variable {σ : Type} {gw : Gateway S} {env : Env} {rpc : Rpc}

/-- A caller that is not admitted: the store stays as it was. -/
theorem runRpc_of_refused (h : Handler S σ) (s : σ) {status : Status}
    (hadm : admission gw env rpc.metadata = .error status) :
    (runRpc gw h env rpc s).value = .error status ∧ (runRpc gw h env rpc s).state = s ∧
      effects (runRpc gw h env rpc s).trace =
        admissionEffects gw env rpc.metadata env.requestId rpc.name := by
  have hrun := observe_handleRpc env h s gw rpc.name rpc.metadata (bodyOf gw rpc)
  rw [← handle_eq, hadm] at hrun
  exact ⟨congrArg (·.1) hrun, congrArg (·.2.1) hrun, congrArg (·.2.2) hrun⟩

/-- An admitted caller: the run of the body, and then the report of its result. -/
theorem runRpc_of_admitted (h : Handler S σ) (s : σ) {identity : Identity} {tenant : String}
    (hadm : admission gw env rpc.metadata = .ok (identity, tenant)) :
    let run := observe env h (bodyOf gw rpc env.requestId identity tenant).run s
    (runRpc gw h env rpc s).value = run.1 ∧ (runRpc gw h env rpc s).state = run.2.1 ∧
      effects (runRpc gw h env rpc s).trace =
        run.2.2 ++ finalEffects gw run.1 tenant identity.userId env.requestId rpc.name := by
  have hrun := observe_handleRpc env h s gw rpc.name rpc.metadata (bodyOf gw rpc)
  rw [← handle_eq, hadm] at hrun
  exact ⟨congrArg (·.1) hrun, congrArg (·.2.1) hrun, congrArg (·.2.2) hrun⟩

end

/-! ### The steps of a body -/

section
variable {P : (GatewaySig S).Cmd → Prop}

/-- A sequence of handler computations uses only what both of its parts use. -/
theorem uses_rpc_bind {p : RpcM S α} {f : α → RpcM S β}
    (hp : p.run.Uses P) (hf : ∀ a, (f a).run.Uses P) : (p >>= f).run.Uses P := by
  rw [ExceptT.run_bind]
  refine hp.bind fun r => ?_
  cases r with
  | error status => trivial
  | ok a => exact hf a

/-- A lifted program uses what it used before. -/
theorem uses_rpc_lift {p : Prog (GatewaySig S) α} (hp : p.Uses P) :
    (ExceptT.lift p : RpcM S α).run.Uses P := by
  show (p >>= fun a => pure (Except.ok a)).Uses P
  exact hp.bind fun _ => trivial

/-- `emit` uses at most the writing of its event. -/
theorem uses_emit (gw : Gateway S) {event : AuditEvent} (h : P (.inr (.audit event))) :
    (gw.emit event).Uses P := by
  unfold Gateway.emit
  split
  · exact ⟨h, fun _ => trivial⟩
  · trivial

/-- `client` uses the dialling of its address only. -/
theorem uses_client {addr : String} (h : P (.inr (.channel addr))) :
    (Gateway.client (S := S) addr).run.Uses P := by
  refine Prog.Uses.bind (p := dial addr) ⟨h, fun _ => trivial⟩ fun r => ?_
  cases r <;> trivial

end

/-! ### The frame -/

/-- Whether a command of the proxy counts the RPC. -/
def counting : ProxyCmd → Bool
  | .recordRpc _ _ => true
  | _ => false

section
variable {P : (GatewaySig S).Cmd → Prop} {gw : Gateway S}

/-- Admission performs commands of the proxy only, and none of them counts the RPC. -/
theorem admission_uses (hP : ∀ c, counting c = false → P (.inr c)) (md : MetadataMap)
    (rid name : String) : (gw.authenticateAndResolve md rid name).run.Uses P := by
  refine uses_rpc_bind ?_ fun identity => uses_rpc_bind ?_ fun tenant =>
    uses_rpc_bind ?_ fun _ => ?_
  · -- `authenticate` counts and reports a failure.
    refine Prog.Uses.bind (p := runAuthenticator md) ⟨hP _ rfl, fun _ => trivial⟩ fun r => ?_
    cases r with
    | ok identity => trivial
    | error status =>
      refine Prog.Uses.bind (p := recordAuthFailure _) ⟨hP _ rfl, fun _ => trivial⟩ fun _ => ?_
      exact (uses_emit gw (hP _ rfl)).bind fun _ => trivial
  · -- `resolve_tenant` does the same if the tenant is missing.
    unfold Gateway.resolveTenant
    dsimp only [ExceptT.run_mk]
    split
    · trivial
    · refine Prog.Uses.bind (p := recordAuthFailure _) ⟨hP _ rfl, fun _ => trivial⟩ fun _ => ?_
      exact (uses_emit gw (hP _ rfl)).bind fun _ => trivial
  · unfold Gateway.limit
    dsimp only [ExceptT.run_mk]
    split
    · exact ⟨hP _ rfl, fun _ => trivial⟩
    · trivial
  · trivial

/-- The report of a result uses no command that counts. -/
theorem finaliseRpc_uses (hP : ∀ c, counting c = false → P (.inr c))
    (result : Except Status Response) (ctx : Option (String × String)) (rid name : String) :
    (gw.finaliseRpc result ctx rid name).Uses P := by
  unfold Gateway.finaliseRpc
  split
  · trivial
  · exact uses_emit gw (hP _ rfl)
  · split
    · trivial
    · exact uses_emit gw (hP _ rfl)

end

/-- What `P` has to contain for the body of the handler of `rpc` for the caller `id`: the commands
of the router's functions, audit events that report no failure, and the client's own message
with the caller's identity on it. -/
structure Allows (P : (GatewaySig S).Cmd → Prop) (gw : Gateway S) (rpc : Rpc) (rid : String)
    (id : Identity) : Prop where
  session : ∀ key, (route (gw.router.resolveSessionDetailed key)).Uses P
  op : ∀ opId key, (route (gw.router.resolveOp opId key)).Uses P
  rememberOp : ∀ opId addr, (route (gw.router.rememberOp opId addr)).Uses P
  forgetOp : ∀ opId, (route (gw.router.forgetOp opId)).Uses P
  forgetSession : ∀ md m, rpc = .request md (.releaseSession m) →
    ∀ key, (route (gw.router.forgetSession key)).Uses P
  channel : ∀ addr, P (.inr (.channel addr))
  audit : ∀ event, event.isFailure = false → P (.inr (.audit event))
  call : ∀ addr md r, rpc = .request md r → P (.inr (.call addr rid (stampRequest id r)))
  upload : ∀ addr md m rest, rpc = .addArtifacts md ⟨m :: rest.messages, rest.ending⟩ →
    P (.inr (.addArtifacts addr rid (m.stamp id) rest))

/-! ### The bodies -/

namespace Allows

variable {P : (GatewaySig S).Cmd → Prop} {gw : Gateway S} {rpc : Rpc} {rid : String} {id : Identity}

/-- Routing by session stays within `P`, the audit event of a new binding included. -/
theorem sessionAddr (h : Allows P gw rpc rid id) (key : SessionKey) (rid' : String)
    (id' : Identity) : (gw.sessionAddr key rid' id').run.Uses P := by
  refine Prog.Uses.bind (p := gw.resolveSessionAudited key rid' id') ?_ fun _ => trivial
  refine Prog.Uses.bind (h.session key) fun outcome => ?_
  rcases outcome with status | _ | o
  · trivial
  · trivial
  · -- `session.create`, if the binding is new.
    dsimp only
    split
    · exact (uses_emit gw (h.audit _ rfl)).bind fun _ => trivial
    · trivial

/-- Routing by operation stays within `P`. -/
theorem opAddr (h : Allows P gw rpc rid id) (opId : String) (key : SessionKey) :
    (gw.opAddr opId key).run.Uses P :=
  Prog.Uses.bind (h.op opId key) fun _ => trivial

/-- A request is sent with the caller's identity on it. -/
theorem forward (h : Allows P gw rpc rid id) (addr : String) {md : MetadataMap} {r req : Request}
    (hrpc : rpc = .request md r) (hreq : req = stampRequest id r) :
    (Gateway.forward (S := S) addr rid req).run.Uses P := by
  refine uses_rpc_bind (uses_client (h.channel addr)) fun _ => ?_
  exact ⟨hreq ▸ h.call addr md r hrpc, fun _ => trivial⟩

variable {tenant : String} {md : MetadataMap}

/-- The bodies that only forward for a session stay within `P`. -/
theorem sessionBody {wrap : Message Payload → Request} {m : Message Payload}
    (h : Allows P gw (.request md (wrap m)) rid id)
    (hwrap : stampRequest id (wrap m) = wrap (m.stamp id)) :
    (gw.sessionBody wrap m rid id tenant).run.Uses P :=
  uses_rpc_bind (h.sessionAddr _ rid id) fun addr => h.forward addr rfl hwrap.symm

/-- The body of `ReleaseExecute` stays within `P`. -/
theorem releaseExecuteBody {m : Message ReleaseExecuteBody}
    (h : Allows P gw (.request md (.releaseExecute m)) rid id) :
    (gw.releaseExecuteBody m rid id tenant).run.Uses P := by
  refine uses_rpc_bind (h.opAddr _ _) fun addr => ?_
  refine uses_rpc_bind (h.forward addr rfl rfl) fun resp => ?_
  exact uses_rpc_bind (uses_rpc_lift (h.forgetOp _)) fun _ => trivial

/-- The body of `ReleaseSession` stays within `P`. -/
theorem releaseSessionBody {m : Message Payload}
    (h : Allows P gw (.request md (.releaseSession m)) rid id) :
    (gw.releaseSessionBody m rid id tenant).run.Uses P := by
  refine uses_rpc_bind (h.sessionAddr _ rid id) fun addr => ?_
  refine uses_rpc_bind (h.forward addr rfl rfl) fun resp => ?_
  refine uses_rpc_bind (uses_rpc_lift (h.forgetSession md m rfl _)) fun _ => ?_
  exact uses_rpc_bind (uses_rpc_lift (uses_emit gw (h.audit _ rfl))) fun _ => trivial

/-- The body of `ExecutePlan` stays within `P`. -/
theorem executePlanBody {m : Message ExecutePlanBody}
    (h : Allows P gw (.request md (.executePlan m)) rid id) :
    (gw.executePlanBody m rid id tenant).run.Uses P := by
  refine uses_rpc_bind (h.sessionAddr _ rid id) fun addr => ?_
  have hforward : (Gateway.forward (S := S) addr rid (.executePlan (m.stamp id))).run.Uses P :=
    h.forward addr rfl rfl
  -- The operation is remembered only when the client supplied a non-empty id.
  dsimp only
  split
  · split
    · exact uses_rpc_bind (uses_rpc_lift (h.rememberOp _ _)) fun _ => hforward
    · exact hforward
  · exact hforward

/-- The body of `AddArtifacts` stays within `P`. -/
theorem addArtifactsBody {inbound : ClientStream}
    (h : Allows P gw (.addArtifacts md inbound) rid id) :
    (gw.addArtifactsBody inbound rid id tenant).run.Uses P := by
  obtain ⟨messages, ending⟩ := inbound
  cases messages with
  | nil => cases ending <;> trivial
  | cons m rest =>
    refine uses_rpc_bind (h.sessionAddr _ rid id) fun addr => ?_
    refine uses_rpc_bind (uses_client (h.channel addr)) fun _ => ?_
    refine uses_rpc_bind (uses_rpc_lift ?_) fun _ => trivial
    exact ⟨h.upload addr md m ⟨rest, ending⟩ rfl, fun _ => trivial⟩

/-- **The commands of a body** are those that it has to be allowed, whatever the replies. -/
theorem body_uses (h : Allows P gw rpc rid id) : (bodyOf gw rpc rid id tenant).run.Uses P := by
  cases rpc with
  | addArtifacts md inbound => exact h.addArtifactsBody
  | request md req =>
    cases req with
    | analyzePlan m => exact h.sessionBody rfl
    | config m => exact h.sessionBody rfl
    | artifactStatus m => exact h.sessionBody rfl
    | interrupt m => exact uses_rpc_bind (h.opAddr _ _) fun addr => h.forward addr rfl rfl
    | releaseExecute m => exact h.releaseExecuteBody
    | releaseSession m => exact h.releaseSessionBody
    | fetchErrorDetails m => exact h.sessionBody rfl
    | cloneSession m => exact h.sessionBody rfl
    | getStatus m => exact h.sessionBody rfl
    | executePlan m => exact h.executePlanBody
    | reattachExecute m => exact uses_rpc_bind (h.opAddr _ _) fun addr => h.forward addr rfl rfl

end Allows

end

/-- The commands that the body of the handler of `rpc` can perform for the caller `id`. -/
def BodyCmd {S : Sig} (rpc : Rpc) (rid : String) (id : Identity) : (GatewaySig S).Cmd → Prop
  | .inl _ => True
  | .inr (.channel _) => True
  | .inr (.audit event) => event.isFailure = false
  | .inr (.call _ rid' req) => rid' = rid ∧ ∃ md r, rpc = .request md r ∧ req = stampRequest id r
  | .inr (.addArtifacts _ rid' first rest) => rid' = rid ∧ ∃ md m,
      rpc = .addArtifacts md ⟨m :: rest.messages, rest.ending⟩ ∧ first = m.stamp id
  | .inr _ => False

section
variable {S : Sig} (gw : Gateway S) (rid : String) (id : Identity) (tenant : String)

/-- Routing performs no command of the proxy. -/
theorem uses_route {α : Type} {rpc : Rpc} (p : Prog (RouterSig S) α) :
    (route p).Uses (BodyCmd rpc rid id) :=
  (Prog.Uses.of_forall (fun _ => trivial) p).inl

/-- The commands listed by `BodyCmd` are enough for every body. -/
theorem bodyCmd_allows (rpc : Rpc) : Allows (BodyCmd rpc rid id) gw rpc rid id where
  session _ := uses_route rid id _
  op _ _ := uses_route rid id _
  rememberOp _ _ := uses_route rid id _
  forgetOp _ := uses_route rid id _
  forgetSession _ _ _ _ := uses_route rid id _
  channel _ := trivial
  audit _ h := h
  call _ md r hrpc := ⟨rfl, md, r, hrpc, rfl⟩
  upload _ md m _ hrpc := ⟨rfl, md, m, hrpc, rfl⟩

/-! ### The effects of a body -/

/-- The effects that the body of the handler of `rpc` can have for the caller `id`. -/
def BodyEffect (env : Env) (rpc : Rpc) (rid : String) (id : Identity) : Effect → Prop
  | .picked _ _ => True
  | .audited event => event.isFailure = false
  | .sent _ rid' req => rid' = rid ∧ ∃ md r, rpc = .request md r ∧ req = stampRequest id r
  | .uploaded _ rid' delivered => rid' = rid ∧ ∃ md m rest,
      rpc = .addArtifacts md ⟨m :: rest.messages, rest.ending⟩ ∧
        delivered = deliveredOf env (m.stamp id) rest

/-- The effects of a body are those of its commands. -/
theorem body_effects {σ : Type} (env : Env) (h : Handler S σ) (rpc : Rpc) (s : σ) :
    ∀ effect ∈ (observe env h (bodyOf gw rpc rid id tenant).run s).2.2,
      BodyEffect env rpc rid id effect := by
  intro effect heffect
  obtain ⟨⟨cmd, reply⟩, he, hof⟩ := List.mem_filterMap.mp heffect
  obtain ⟨hcmd, s', hreply⟩ :=
    (bodyCmd_allows gw rid id rpc).body_uses.exec (gatewayHandler env h) s _ he
  -- Each command has at most one effect, and `hof` says which.
  rcases cmd with (pick | store) | cmd
  · cases pick with
    | pick pool =>
      cases reply with
      | none => cases hof
      | some addr =>
        cases hof
        trivial
  · cases hof
  · cases cmd with
    | audit event =>
      cases hof
      exact hcmd
    | call addr rid' req =>
      cases hof
      exact hcmd
    | addArtifacts addr rid' first rest =>
      cases hof
      obtain ⟨hrid, md, m, hrpc, hfirst⟩ := hcmd
      have hdelivered : UploadReply.delivered reply = deliveredOf env first rest :=
        congrArg UploadReply.delivered hreply
      exact ⟨hrid, md, m, rest, hrpc, hfirst ▸ hdelivered⟩
    | _ => cases hof

end

end SparkGateway.Proofs.Handler
