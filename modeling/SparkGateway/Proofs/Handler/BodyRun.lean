import SparkGateway.Proofs.Handler.Commands

/-!
# `SparkGateway.Proofs.Handler.BodyRun`: the run of a body over any store

The body of a handler routes its RPC and then delivers it. `addrOf` is the first part and
`deliver` the second one, and `bodyOf_eq` says that the twelve bodies are these two.

Each part has one equation for its run, over every store and every backing. `observe_addrOf` says
where the RPC is routed (`routing`), by way of the run of `resolve_session_detailed` (`resolved`).
`observe_deliver` gives the answer (`answerOf`), the store after it (`settled`) and the effects,
and `observe_body` puts the two together. What the operations of the store do is left to
`served`. So a proof about a particular store replaces `served` by what that store does, and does
not look into the handlers again.
-/

set_option autoImplicit false

namespace SparkGateway.Proofs.Handler

open SparkGateway.Lib
open SparkGateway.Spec

/-! ### What an RPC names -/

/-- The session that a request names. -/
def requestSession : Request → String
  | .analyzePlan m => m.sessionId
  | .config m => m.sessionId
  | .artifactStatus m => m.sessionId
  | .interrupt m => m.sessionId
  | .releaseExecute m => m.sessionId
  | .releaseSession m => m.sessionId
  | .fetchErrorDetails m => m.sessionId
  | .cloneSession m => m.sessionId
  | .getStatus m => m.sessionId
  | .executePlan m => m.sessionId
  | .reattachExecute m => m.sessionId

/-- The session that an RPC names. An upload without a message names none. -/
def sessionOf : Rpc → Option String
  | .request _ req => some (requestSession req)
  | .addArtifacts _ inbound => inbound.messages.head?.map (·.sessionId)

/-- The operation by which an RPC is routed, if it is. -/
def opOf : Rpc → Option String
  | .request _ (.interrupt m) =>
      some (match m.body.interrupt with
        | some (.operationId id) => id
        | _ => "")
  | .request _ (.releaseExecute m) => some m.body.operationId
  | .request _ (.reattachExecute m) => some m.body.operationId
  | _ => none

/-- The status of an upload without a message. -/
def emptyUpload : Rpc → Status
  | .addArtifacts _ ⟨_, .error status⟩ => status
  | _ => .invalidArgument "AddArtifacts: empty client stream"

/-! ### The two parts of a body -/

section
variable {S : Sig} {σ α : Type} (gw : Gateway S)

/-- The part of a body that routes. -/
def addrOf (rpc : Rpc) (rid : String) (id : Identity) (tenant : String) : RpcM S String :=
  match sessionOf rpc, opOf rpc with
  | some sessionId, some opId => gw.opAddr opId (keyFromIdentity tenant sessionId id)
  | some sessionId, none => gw.sessionAddr (keyFromIdentity tenant sessionId id) rid id
  | none, _ => throw (emptyUpload rpc)

/-- The part of a body that follows. -/
def deliver (rpc : Rpc) (rid : String) (id : Identity) (tenant addr : String) :
    RpcM S Response :=
  match rpc with
  | .request _ (.releaseExecute m) => do
      let resp ← Gateway.forward addr rid (.releaseExecute (m.stamp id))
      ExceptT.lift (route (gw.router.forgetOp m.body.operationId))
      pure resp
  | .request _ (.releaseSession m) => do
      let key := keyFromIdentity tenant m.sessionId id
      let resp ← Gateway.forward addr rid (.releaseSession (m.stamp id))
      ExceptT.lift (route (gw.router.forgetSession key))
      ExceptT.lift (gw.emit (.sessionRelease rid key.tenant id.userId
        (",".intercalate id.groups) key.sessionId addr))
      pure resp
  | .request _ (.executePlan m) => do
      match m.body.operationId with
      | some opId =>
        if opId != "" then ExceptT.lift (route (gw.router.rememberOp opId addr))
      | none => pure ()
      Gateway.forward addr rid (.executePlan (m.stamp id))
  | .request _ req => Gateway.forward addr rid (stampRequest id req)
  | .addArtifacts _ ⟨[], _⟩ => do
      -- Not reached: such an upload is not routed.
      Gateway.client addr
      throw (emptyUpload rpc)
  | .addArtifacts _ ⟨m :: rest, ending⟩ => do
      Gateway.client addr
      let reply ← ExceptT.lift (callUpload addr rid (m.stamp id) ⟨rest, ending⟩)
      ExceptT.mk (pure reply.answer)

/-- Every body routes its RPC and then delivers it. -/
theorem bodyOf_eq (rpc : Rpc) (rid : String) (id : Identity) (tenant : String) :
    bodyOf gw rpc rid id tenant =
      addrOf gw rpc rid id tenant >>= deliver gw rpc rid id tenant := by
  cases rpc with
  | request md req => cases req <;> rfl
  | addArtifacts md inbound =>
    obtain ⟨messages, ending⟩ := inbound
    cases messages with
    | nil => cases ending <;> rfl
    | cons m rest => rfl

end

/-! ### Operations of the store -/

section
variable {S : Sig} {σ α : Type} (env : Env) (h : Handler S σ)

/-- An operation of the store: its result, and the store after it. -/
def served (p : Prog S α) (s : σ) : α × σ := ((p.exec h s).value, (p.exec h s).state)

@[simp] theorem served_ret (a : α) (s : σ) : served h (.ret a : Prog S α) s = (a, s) := rfl

@[simp] theorem served_step (c : S.Cmd) (k : S.Reply c → Prog S α) (s : σ) :
    served h (.step c k) s = served h (k (h c s).1) (h c s).2 := rfl

/-- An operation of the store has no effect on the world. -/
theorem observe_store (p : Prog S α) (s : σ) :
    observe env h (route p.inr) s = ((served h p s).1, (served h p s).2, []) := by
  induction p generalizing s with
  | ret a => rfl
  | step c k ih => exact ih (h c s).1 (h c s).2

/-! ### Routing -/

/-- The run of `resolve_session_detailed`: the outcome, the store, and the effects. -/
def resolved (r : Router S) (key : SessionKey) (s : σ) :
    Except Status (Option ResolveOutcome) × σ × List Effect :=
  match r.tenants.poolFor key.tenant with
  | .error status => (.error status, s, [])
  | .ok none => (.ok none, s, [])
  | .ok (some pool) =>
    if key.isZero then
      (.ok ((env.pick pool).map fun addr => ⟨addr, false⟩), s, picking env pool)
    else
      let found := served h (r.store.lookupSession key) s
      match found.1, env.pick pool with
      | some existing, _ => (.ok (some ⟨existing, false⟩), found.2, [])
      | none, none => (.ok none, found.2, [])
      | none, some chosen =>
          let bound := served h (r.store.bindSessionIfAbsent key chosen) found.2
          (.ok (some ⟨bound.1, bound.1 == chosen⟩), bound.2, [.picked pool chosen])

/-- `resolve_session_detailed`, run alone. -/
theorem observe_resolved (r : Router S) (key : SessionKey) (s : σ) :
    observe env h (route (r.resolveSessionDetailed key)) s = resolved env h r key s := by
  unfold Router.resolveSessionDetailed resolved
  cases r.tenants.poolFor key.tenant with
  | error status => rfl
  | ok pool? =>
    cases pool? with
    | none => rfl
    | some pool =>
      -- A key without a session id picks, and neither looks up nor binds.
      cases key.isZero with
      | true => simp [route_bind, observe_bind, observe_pick]
      | false =>
        simp only [Bool.false_eq_true, if_false, Router.resolveIn, route_bind, observe_bind,
          observe_store]
        cases (served h (r.store.lookupSession key) s).1 with
        | some existing => rfl
        | none =>
          -- An unbound session is bound to what the pool picks.
          simp only [route_bind, observe_bind, observe_pick, picking]
          cases env.pick pool with
          | none => rfl
          | some chosen => simp [route_bind, observe_bind, observe_store]

/-- The address of a routed session. -/
def addrIn (outcome : Except Status (Option ResolveOutcome)) : Except Status String :=
  requireAddr (outcome.map fun o => o.map (·.addr))

/-- The event of a new binding. -/
def creating (gw : Gateway S) (rid : String) (id : Identity) (key : SessionKey) :
    Except Status (Option ResolveOutcome) → List Effect
  | .ok (some ⟨addr, true⟩) => writing gw (.sessionCreate rid key.tenant id.userId
      (",".intercalate id.groups) key.sessionId addr)
  | _ => []

/-- Routing by session reports a new binding. -/
theorem observe_sessionAddr (gw : Gateway S) (key : SessionKey) (rid : String) (id : Identity)
    (s : σ) :
    observe env h (gw.sessionAddr key rid id).run s =
      let run := resolved env h gw.router key s
      (addrIn run.1, run.2.1, run.2.2 ++ creating gw rid id key run.1) := by
  unfold Gateway.sessionAddr Gateway.resolveSessionAudited
  simp only [ExceptT.run_mk, observe_bind, observe_resolved]
  rcases resolved env h gw.router key s with ⟨outcome, s', es⟩
  rcases outcome with status | _ | ⟨addr, newlyBound⟩
  · simp [addrIn, creating, Except.map]
  · simp [addrIn, creating, Except.map]
  · cases newlyBound with
    | false => simp [addrIn, creating, Except.map]
    | true => simp [addrIn, creating, Except.map, observe_bind, observe_emit]

/-- What the operation index says. An empty id is not looked up. -/
def opServed (r : Router S) (opId : String) (s : σ) : Option String × σ :=
  if opId == "" then (none, s) else served h (r.store.lookupOp opId) s

/-- Routing by operation: a known operation goes to its backend, any other one by session, and
then without a report. -/
theorem observe_opAddr (gw : Gateway S) (opId : String) (key : SessionKey) (s : σ) :
    observe env h (gw.opAddr opId key).run s =
      match opServed h gw.router opId s with
      | (some b, s') => (.ok b, s', [])
      | (none, s') =>
          let run := resolved env h gw.router key s'
          (addrIn run.1, run.2.1, run.2.2) := by
  unfold Gateway.opAddr Router.resolveOp opServed
  cases opId == "" with
  | true => simp [observe_bind, Router.resolveSession, route_bind, observe_resolved, addrIn]
  | false =>
    simp only [Bool.false_eq_true, if_false, ExceptT.run_mk, observe_bind, route_bind,
      observe_store]
    rcases served h (gw.router.store.lookupOp opId) s with ⟨found, s'⟩
    cases found with
    | some b => rfl
    | none => simp [observe_bind, Router.resolveSession, route_bind, observe_resolved, addrIn]

/-- Routing of an RPC: the address or an error, the store, and the effects. -/
def routing (gw : Gateway S) (rpc : Rpc) (id : Identity) (tenant : String) (s : σ) :
    Except Status String × σ × List Effect :=
  match sessionOf rpc, opOf rpc with
  | none, _ => (.error (emptyUpload rpc), s, [])
  | some sessionId, some opId =>
    match opServed h gw.router opId s with
    | (some b, s') => (.ok b, s', [])
    | (none, s') =>
        let run := resolved env h gw.router (keyFromIdentity tenant sessionId id) s'
        (addrIn run.1, run.2.1, run.2.2)
  | some sessionId, none =>
      let key := keyFromIdentity tenant sessionId id
      let run := resolved env h gw.router key s
      (addrIn run.1, run.2.1, run.2.2 ++ creating gw env.requestId id key run.1)

/-- The routing of an RPC, run alone. -/
theorem observe_addrOf (gw : Gateway S) (rpc : Rpc) (id : Identity) (tenant : String) (s : σ) :
    observe env h (addrOf gw rpc env.requestId id tenant).run s =
      routing env h gw rpc id tenant s := by
  unfold addrOf routing
  cases sessionOf rpc with
  | none => rfl
  | some sessionId =>
    cases opOf rpc with
    | none => exact observe_sessionAddr env h gw _ _ id s
    | some opId => exact observe_opAddr env h gw opId _ s

/-! ### Delivery -/

/-- What the backend at `addr` answers, or why it could not be reached. -/
def answerOf (rpc : Rpc) (id : Identity) (addr : String) : Except Status Response :=
  match env.channel addr with
  | .error e => .error (.unavailable ("dial backend " ++ addr ++ ": " ++ e))
  | .ok () =>
    match rpc with
    | .request _ req => env.call addr env.requestId (stampRequest id req)
    | .addArtifacts _ ⟨[], _⟩ => .error (emptyUpload rpc)
    | .addArtifacts _ ⟨m :: rest, ending⟩ =>
        env.uploadAnswer addr env.requestId (deliveredOf env (m.stamp id) ⟨rest, ending⟩)

/-- What is sent to the backend, if it can be dialed. -/
def sending (rpc : Rpc) (id : Identity) (addr : String) : List Effect :=
  match env.channel addr with
  | .error _ => []
  | .ok () =>
    match rpc with
    | .request _ req => [.sent addr env.requestId (stampRequest id req)]
    | .addArtifacts _ ⟨[], _⟩ => []
    | .addArtifacts _ ⟨m :: rest, ending⟩ =>
        [.uploaded addr env.requestId (deliveredOf env (m.stamp id) ⟨rest, ending⟩)]

/-- Whether the request reaches the backend and is answered Ok. -/
def answeredOk (addr : String) (req : Request) : Bool :=
  (env.channel addr).isOk && (env.call addr env.requestId req).isOk

/-- What an RPC does to the store once it has an address. -/
def settled (gw : Gateway S) (rpc : Rpc) (id : Identity) (tenant addr : String) (s : σ) : σ :=
  match rpc with
  | .request _ (.executePlan m) =>
      match m.body.operationId with
      | some opId => if opId == "" then s else (served h (gw.router.store.bindOp opId addr) s).2
      | none => s
  | .request _ (.releaseExecute m) =>
      if answeredOk env addr (.releaseExecute (m.stamp id)) && m.body.operationId != "" then
        (served h (gw.router.store.forgetOp m.body.operationId) s).2
      else s
  | .request _ (.releaseSession m) =>
      if answeredOk env addr (.releaseSession (m.stamp id)) then
        (served h (gw.router.store.forgetSession (keyFromIdentity tenant m.sessionId id)) s).2
      else s
  | _ => s

/-- The event of a release. -/
def releasing (gw : Gateway S) (rpc : Rpc) (id : Identity) (tenant addr : String) : List Effect :=
  match rpc with
  | .request _ (.releaseSession m) =>
      if answeredOk env addr (.releaseSession (m.stamp id)) then
        writing gw (.sessionRelease env.requestId tenant id.userId (",".intercalate id.groups)
          m.sessionId addr)
      else []
  | _ => []

/-- `forward` of the stamped request, run alone: the backend's answer, and one message sent to it.
-/
theorem observe_forward_request (md : MetadataMap) (req : Request) (id : Identity) (addr : String)
    (s : σ) :
    observe env h (Gateway.forward (S := S) addr env.requestId (stampRequest id req)).run s =
      (answerOf env (.request md req) id addr, s, sending env (.request md req) id addr) := by
  rw [observe_forward]
  unfold answerOf sending
  cases env.channel addr with
  | error e => rfl
  | ok _ => rfl

/-- An answer is Ok if the backend was reached and answered so. -/
theorem answerOf_isOk (md : MetadataMap) (req : Request) (id : Identity) (addr : String) :
    (answerOf env (.request md req) id addr).isOk = answeredOk env addr (stampRequest id req) := by
  unfold answerOf answeredOk
  cases env.channel addr with
  | error e => rfl
  | ok _ => rfl

/-- Forwarding, and then something that is done only when the backend answered Ok. -/
theorem observe_forward_bind {f : Response → RpcM S Response} (md : MetadataMap) (req : Request)
    (id : Identity) (addr : String) (s : σ) {s' : σ} {es : List Effect}
    (hf : ∀ resp, observe env h (f resp).run s = (.ok resp, s', es)) :
    observe env h (Gateway.forward addr env.requestId (stampRequest id req) >>= f).run s =
      (answerOf env (.request md req) id addr,
        if answeredOk env addr (stampRequest id req) then s' else s,
        sending env (.request md req) id addr ++
          if answeredOk env addr (stampRequest id req) then es else []) := by
  rw [observe_rpc_bind, observe_forward_request env h md, ← answerOf_isOk env md]
  cases answerOf env (.request md req) id addr with
  | error status => simp [Except.isOk, Except.toBool]
  | ok resp => simp [hf, Except.isOk, Except.toBool]

/-- `remember_op`, run alone: one write of the store, unless the id is empty. -/
theorem observe_rememberOp (r : Router S) (opId addr : String) (s : σ) :
    observe env h (route (r.rememberOp opId addr)) s =
      ((), if opId == "" then s else (served h (r.store.bindOp opId addr) s).2, []) := by
  unfold Router.rememberOp
  cases opId == "" with
  | true => rfl
  | false => exact observe_store env h _ s

/-- `forget_op`, run alone: one removal in the store, unless the id is empty. -/
theorem observe_routerForgetOp (r : Router S) (opId : String) (s : σ) :
    observe env h (route (r.forgetOp opId)) s =
      ((), if opId == "" then s else (served h (r.store.forgetOp opId) s).2, []) := by
  unfold Router.forgetOp
  cases opId == "" with
  | true => rfl
  | false => exact observe_store env h _ s

/-- Forgetting an operation, and then returning what the backend answered. -/
theorem observe_forgetOp_pure (r : Router S) (opId : String) (s : σ) (resp : Response) :
    observe env h (ExceptT.lift (route (r.forgetOp opId)) >>= fun _ =>
      (pure resp : RpcM S Response)).run s =
        (.ok resp, if opId == "" then s else (served h (r.store.forgetOp opId) s).2, []) := by
  rw [observe_lift_bind, observe_routerForgetOp]
  rfl

/-- **Delivery.** The answer of the backend, the store after it, and the effects. -/
theorem observe_deliver (gw : Gateway S) (rpc : Rpc) (id : Identity) (tenant addr : String)
    (s : σ) :
    observe env h (deliver gw rpc env.requestId id tenant addr).run s =
      (answerOf env rpc id addr, settled env h gw rpc id tenant addr s,
        sending env rpc id addr ++ releasing env gw rpc id tenant addr) := by
  cases rpc with
  | addArtifacts md inbound =>
    obtain ⟨messages, ending⟩ := inbound
    cases messages with
    | nil =>
      simp only [deliver, observe_rpc_bind, observe_client, answerOf, sending, settled, releasing]
      cases env.channel addr with
      | error e => rfl
      | ok _ => rfl
    | cons m rest =>
      simp only [deliver, observe_rpc_bind, observe_client, answerOf, sending, settled, releasing,
        observe_rpc_lift, observe_callUpload]
      cases env.channel addr with
      | error e => rfl
      | ok _ => rfl
  | request md req =>
    have hforward := observe_forward_request env h md req id addr s
    cases req with
    | releaseExecute m =>
      -- The operation is forgotten after the answer.
      have hforget := observe_forgetOp_pure env h gw.router m.body.operationId s
      refine (observe_forward_bind env h md (.releaseExecute m) id addr s hforget).trans ?_
      by_cases hok : answeredOk env addr (.releaseExecute (m.stamp id)) = true
      · by_cases hempty : m.body.operationId = ""
        · simp [settled, releasing, stampRequest, hok, hempty]
        · simp [settled, releasing, stampRequest, hok, hempty]
      · simp [settled, releasing, stampRequest, hok]
    | releaseSession m =>
      refine observe_forward_bind env h md (.releaseSession m) id addr s fun resp => ?_
      simp only [observe_lift_bind, observe_emit, Router.forgetSession, observe_store,
        observe_rpc_pure, List.nil_append, List.append_nil]
      rfl
    | executePlan m =>
      simp only [deliver, settled, releasing]
      cases m.body.operationId with
      | none => simpa [stampRequest] using hforward
      | some opId =>
        -- The entry is written before the call, whether or not the backend is reached.
        cases hempty : opId == "" with
        | true => simpa [bne, hempty, stampRequest] using hforward
        | false =>
          have hforward' := observe_forward_request env h md (.executePlan m) id addr
          simp only [stampRequest] at hforward'
          simp only [bne, hempty, Bool.not_false, if_true, Bool.false_eq_true, if_false,
            observe_lift_bind, observe_rememberOp, hforward', List.nil_append, List.append_nil]
    | _ => simpa [deliver, settled, releasing] using hforward

/-- **The run of a body**: an RPC that is not routed leaves it there, any other one is delivered. -/
theorem observe_body (gw : Gateway S) (rpc : Rpc) (id : Identity) (tenant : String) (s : σ) :
    observe env h (bodyOf gw rpc env.requestId id tenant).run s =
      match routing env h gw rpc id tenant s with
      | (.error status, s', es) => (.error status, s', es)
      | (.ok addr, s', es) =>
          (answerOf env rpc id addr, settled env h gw rpc id tenant addr s',
            es ++ (sending env rpc id addr ++ releasing env gw rpc id tenant addr)) := by
  rw [bodyOf_eq, observe_rpc_bind, observe_addrOf]
  rcases routing env h gw rpc id tenant s with ⟨value, s', es⟩
  cases value with
  | error status => rfl
  | ok addr => simp only [observe_deliver]

end

end SparkGateway.Proofs.Handler
