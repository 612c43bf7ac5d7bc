import SparkGateway.Spec.Sequential

/-!
# `SparkGateway.Proofs.Handler.Frame`: what the frame of a handler does

`observe` is the run of a handler computation: the value it returns, the store after it, and
its effects. Each step of a handler has one equation for it, and `observe_bind` and
`observe_rpc_bind` put them together, so no later proof unfolds a step.

`admission` is what `authenticate_and_resolve` decides, as a function of the world's answers,
and `observe_handleRpc` the run of a handler in terms of it: a caller that is not admitted
leaves the store alone, and otherwise the body runs from the same store. This holds for every
store and every backing.
-/

set_option autoImplicit false

namespace SparkGateway.Proofs.Handler

open SparkGateway.Lib
open SparkGateway.Spec

section
variable {S : Sig} {σ α β : Type}

/-- The run of a handler computation: value, store, effects. -/
def observe (env : Env) (h : Handler S σ) (p : Prog (GatewaySig S) α) (s : σ) :
    α × σ × List Effect :=
  ((p.exec (gatewayHandler env h) s).value, (p.exec (gatewayHandler env h) s).state,
    effects (p.exec (gatewayHandler env h) s).trace)

variable (env : Env) (h : Handler S σ) (s : σ)

@[simp] theorem effects_append (t t' : List (Event (GatewaySig S))) :
    effects (t ++ t') = effects t ++ effects t' := List.filterMap_append

@[simp] theorem observe_ret (a : α) : observe env h (.ret a) s = (a, s, []) := rfl

/-- A sequence: the second part runs from where the first ends, and the effects add up. -/
theorem observe_bind (p : Prog (GatewaySig S) α) (f : α → Prog (GatewaySig S) β) :
    observe env h (p >>= f) s =
      ((observe env h (f (observe env h p s).1) (observe env h p s).2.1).1,
        (observe env h (f (observe env h p s).1) (observe env h p s).2.1).2.1,
        (observe env h p s).2.2 ++
          (observe env h (f (observe env h p s).1) (observe env h p s).2.1).2.2) := by
  rw [observe, Prog.exec_bind]
  simp only [observe, effects_append]

/-! ### The commands of the proxy -/

@[simp] theorem observe_requestId :
    observe env h (requestId : Prog (GatewaySig S) String) s = (env.requestId, s, []) := rfl

@[simp] theorem observe_runAuthenticator (md : MetadataMap) :
    observe env h (runAuthenticator md : Prog (GatewaySig S) _) s =
      (env.authenticate md, s, []) := rfl

@[simp] theorem observe_runLimiter (tenant userId : String) :
    observe env h (runLimiter tenant userId : Prog (GatewaySig S) _) s =
      (env.check tenant userId, s, []) := rfl

@[simp] theorem observe_dial (addr : String) :
    observe env h (dial addr : Prog (GatewaySig S) _) s =
      (env.channel addr, s, []) := rfl

/-- A call is one message to the backend. -/
@[simp] theorem observe_callBackend (addr rid : String) (req : Request) :
    observe env h (callBackend addr rid req : Prog (GatewaySig S) _) s =
      (env.call addr rid req, s, [.sent addr rid req]) := rfl

/-- What the backend receives of an upload. -/
def deliveredOf (env : Env) (first : AddArtifactsRequest) (rest : ClientStream) :
    List AddArtifactsRequest :=
  ((Forwarder.start first rest).run env.uploadMoves).delivered

/-- An upload is what is delivered of it to the backend. -/
@[simp] theorem observe_callUpload (addr rid : String) (first : AddArtifactsRequest)
    (rest : ClientStream) :
    observe env h (callUpload addr rid first rest : Prog (GatewaySig S) _) s =
      (⟨deliveredOf env first rest, env.uploadAnswer addr rid (deliveredOf env first rest)⟩, s,
        [.uploaded addr rid (deliveredOf env first rest)]) := rfl

/-- Counting an authentication failure has no effect outside. -/
@[simp] theorem observe_recordAuthFailure (reason : String) :
    observe env h (recordAuthFailure reason : Prog (GatewaySig S) _) s =
      ((), s, []) := rfl

/-- Counting an RPC has no effect outside. -/
@[simp] theorem observe_recordRpc (rpc code : String) :
    observe env h (recordRpc rpc code : Prog (GatewaySig S) _) s = ((), s, []) := rfl

/-! ### The steps of a handler -/

/-- `route` commutes with sequencing. -/
theorem route_bind (p : Prog (RouterSig S) α) (f : α → Prog (RouterSig S) β) :
    (route (p >>= f) : Prog (GatewaySig S) β) = route p >>= fun a => route (f a) :=
  Prog.inl_bind p f

@[simp] theorem observe_route_ret (a : α) :
    observe env h (route (.ret a)) s = (a, s, []) := rfl

/-- The effects of a pick. -/
def picking (env : Env) (pool : PoolId) : List Effect :=
  (env.pick pool).toList.map (.picked pool)

/-- A pick shows as one if the pool has an address. -/
theorem observe_pick (pool : PoolId) :
    observe env h (route (Router.pick pool)) s = (env.pick pool, s, picking env pool) := by
  have heffects : effects [(⟨.inl (.inl (.pick pool)), env.pick pool⟩ : Event (GatewaySig S))]
      = picking env pool := by
    unfold picking
    cases hpick : env.pick pool <;> simp [effects, effectOf]
  exact congrArg (fun es => (env.pick pool, s, es)) heffects

/-- The effects of writing an event. -/
def writing (gw : Gateway S) (event : AuditEvent) : List Effect :=
  if gw.audit.writes event then [.audited event] else []

/-- An audit event is written if the switches let it through. -/
theorem observe_emit (gw : Gateway S) (event : AuditEvent) :
    observe env h (gw.emit event) s = ((), s, writing gw event) := by
  unfold Gateway.emit writing
  cases gw.audit.writes event with
  | false => rfl
  | true => rfl

/-- The bind of handler computations: an error ends the run. -/
theorem observe_rpc_bind (p : RpcM S α) (f : α → RpcM S β) :
    observe env h (p >>= f).run s =
      match observe env h p.run s with
      | (.error status, s', es) => (.error status, s', es)
      | (.ok a, s', es) =>
          ((observe env h (f a).run s').1, (observe env h (f a).run s').2.1,
            es ++ (observe env h (f a).run s').2.2) := by
  rw [ExceptT.run_bind, observe_bind]
  -- Both sides look at the result of `p` only.
  rcases observe env h p.run s with ⟨value, s', es⟩
  cases value with
  | error status => simp
  | ok a => simp

@[simp] theorem observe_rpc_pure (a : α) :
    observe env h (pure a : RpcM S α).run s = (.ok a, s, []) := rfl

/-- A lifted program, with its result as the Ok one. -/
theorem observe_rpc_lift (p : Prog (GatewaySig S) α) :
    observe env h (ExceptT.lift p : RpcM S α).run s =
      (.ok (observe env h p s).1, (observe env h p s).2.1, (observe env h p s).2.2) := by
  show observe env h (p >>= fun a => pure (Except.ok a)) s = _
  rw [observe_bind]
  simp

/-- A program that cannot fail, and what follows it. -/
theorem observe_lift_bind (p : Prog (GatewaySig S) α) (f : α → RpcM S β) :
    observe env h (ExceptT.lift p >>= f).run s =
      let run := observe env h p s
      let rest := observe env h (f run.1).run run.2.1
      (rest.1, rest.2.1, run.2.2 ++ rest.2.2) := by
  rw [observe_rpc_bind, observe_rpc_lift]

/-- `client`: a failed dial ends the RPC as unavailable. -/
theorem observe_client (addr : String) :
    observe env h (Gateway.client (S := S) addr).run s =
      (match env.channel addr with
        | .ok () => .ok ()
        | .error e => .error (.unavailable ("dial backend " ++ addr ++ ": " ++ e)), s, []) := by
  simp only [Gateway.client, ExceptT.run_mk, observe_bind, observe_dial]
  cases env.channel addr with
  | ok _ => rfl
  | error e => rfl

/-- Forwarding: nothing is sent when the dial fails. -/
theorem observe_forward (addr rid : String) (req : Request) :
    observe env h (Gateway.forward (S := S) addr rid req).run s =
      match env.channel addr with
      | .ok () => (env.call addr rid req, s, [.sent addr rid req])
      | .error e => (.error (.unavailable ("dial backend " ++ addr ++ ": " ++ e)), s, []) := by
  unfold Gateway.forward
  rw [observe_rpc_bind, observe_client]
  cases env.channel addr with
  | ok _ => rfl
  | error e => rfl

/-! ### Admission -/

/-- What `authenticate_and_resolve` decides. -/
def admission (gw : Gateway S) (env : Env) (metadata : MetadataMap) :
    Except Status (Identity × String) :=
  match env.authenticate metadata with
  | .error status => .error status
  | .ok identity =>
    match gw.tenantResolver.resolve metadata identity with
    | .error status => .error status
    | .ok tenant =>
      if gw.rateLimited then
        match (env.check tenant identity.userId).toResult tenant identity.userId with
        | .error status => .error status
        | .ok () => .ok (identity, tenant)
      else .ok (identity, tenant)

/-- The audit effects of `authenticate_and_resolve`: an event for a refused caller or a
missing tenant, and none for a caller over the limit. -/
def admissionEffects (gw : Gateway S) (env : Env) (metadata : MetadataMap) (rid rpc : String) :
    List Effect :=
  match env.authenticate metadata with
  | .error status => writing gw (.authFailure rid rpc (authFailureReason status))
  | .ok identity =>
    match gw.tenantResolver.resolve metadata identity with
    | .error _ => writing gw (.authFailure rid rpc "missing_tenant")
    | .ok _ => []

/-- `authenticate`: the authenticator's answer, and an audit event for a failure. -/
theorem observe_authenticate (gw : Gateway S) (metadata : MetadataMap) (rid rpc : String) :
    observe env h (gw.authenticate metadata rid rpc).run s =
      (env.authenticate metadata, s,
        match env.authenticate metadata with
        | .error status => writing gw (.authFailure rid rpc (authFailureReason status))
        | .ok _ => []) := by
  simp only [Gateway.authenticate, ExceptT.run_mk, observe_bind, observe_runAuthenticator]
  cases env.authenticate metadata with
  | ok identity => rfl
  | error status => simp [observe_bind, observe_emit]

/-- `resolve_tenant`: the resolver's answer, and an audit event if the tenant is missing. -/
theorem observe_resolveTenant (gw : Gateway S) (metadata : MetadataMap) (identity : Identity)
    (rid rpc : String) :
    observe env h (gw.resolveTenant metadata identity rid rpc).run s =
      (gw.tenantResolver.resolve metadata identity, s,
        match gw.tenantResolver.resolve metadata identity with
        | .error _ => writing gw (.authFailure rid rpc "missing_tenant")
        | .ok _ => []) := by
  simp only [Gateway.resolveTenant, ExceptT.run_mk]
  cases gw.tenantResolver.resolve metadata identity with
  | ok tenant => rfl
  | error status => simp [observe_bind, observe_emit]

/-- The limiter's verdict, if one is configured. -/
theorem observe_limit (gw : Gateway S) (tenant userId : String) :
    observe env h (gw.limit tenant userId).run s =
      (if gw.rateLimited then (env.check tenant userId).toResult tenant userId else .ok (),
        s, []) := by
  simp only [Gateway.limit, ExceptT.run_mk]
  cases gw.rateLimited with
  | false => rfl
  | true => simp [observe_bind]

/-- `authenticate_and_resolve`: the admission, an unchanged store, and its audit effects. -/
theorem observe_authenticateAndResolve (gw : Gateway S) (metadata : MetadataMap)
    (rid rpc : String) :
    observe env h (gw.authenticateAndResolve metadata rid rpc).run s =
      (admission gw env metadata, s, admissionEffects gw env metadata rid rpc) := by
  unfold Gateway.authenticateAndResolve admission admissionEffects
  rw [observe_rpc_bind, observe_authenticate]
  -- The first of the three that fails ends the admission.
  cases env.authenticate metadata with
  | error status => rfl
  | ok identity =>
    simp only [observe_rpc_bind, observe_resolveTenant]
    cases gw.tenantResolver.resolve metadata identity with
    | error status => rfl
    | ok tenant =>
      simp only [observe_limit]
      cases gw.rateLimited with
      | false => rfl
      | true =>
        simp only [if_true]
        cases (env.check tenant identity.userId).toResult tenant identity.userId with
        | error status => rfl
        | ok _ => rfl

/-- Nothing is written for a caller that is admitted. -/
theorem admissionEffects_of_ok {gw : Gateway S} {env : Env} {metadata : MetadataMap}
    {p : Identity × String} (hp : admission gw env metadata = .ok p) (rid rpc : String) :
    admissionEffects gw env metadata rid rpc = [] := by
  unfold admission at hp
  unfold admissionEffects
  cases hauth : env.authenticate metadata with
  | error status => simp [hauth] at hp
  | ok identity =>
    cases htenant : gw.tenantResolver.resolve metadata identity with
    | error status => simp [hauth, htenant] at hp
    | ok tenant => simp [htenant]

/-- The audit effects of `finalise_rpc` for an admitted caller. -/
def finalEffects (gw : Gateway S) (result : Except Status Response)
    (tenant userId rid rpc : String) : List Effect :=
  match result with
  | .ok _ => writing gw (.rpcOk rid rpc tenant userId)
  | .error status =>
      if status.code = .cancelled then []
      else writing gw (.rpcError rid rpc tenant userId (statusCodeLabel status) status.message)

/-- The report of an admitted RPC's result. -/
theorem observe_finaliseRpc (gw : Gateway S) (result : Except Status Response)
    (tenant userId rid rpc : String) :
    observe env h (gw.finaliseRpc result (some (tenant, userId)) rid rpc) s =
      ((), s, finalEffects gw result tenant userId rid rpc) := by
  unfold Gateway.finaliseRpc finalEffects
  cases result with
  | ok resp => exact observe_emit env h s gw _
  | error status =>
    simp only
    split
    · rfl
    · exact observe_emit env h s gw _

/-- **The frame of a handler.** A caller that is not admitted is refused with the store as it
was. Otherwise the body runs, and `finalise_rpc` reports its result. -/
theorem observe_handleRpc (gw : Gateway S) (rpc : String) (metadata : MetadataMap)
    (body : String → Identity → String → RpcM S Response) :
    observe env h (gw.handleRpc rpc metadata body) s =
      match admission gw env metadata with
      | .error status => (.error status, s, admissionEffects gw env metadata env.requestId rpc)
      | .ok (identity, tenant) =>
          let run := observe env h (body env.requestId identity tenant).run s
          (run.1, run.2.1,
            run.2.2 ++ finalEffects gw run.1 tenant identity.userId env.requestId rpc) := by
  unfold Gateway.handleRpc
  simp only [observe_bind, observe_requestId, observe_authenticateAndResolve]
  cases hadm : admission gw env metadata with
  | error status =>
    -- `finalise_rpc` has no context, so it writes nothing.
    simp [observe_bind, Gateway.finaliseRpc]
  | ok p =>
    obtain ⟨identity, tenant⟩ := p
    simp [observe_bind, observe_finaliseRpc, admissionEffects_of_ok hadm]

end

end SparkGateway.Proofs.Handler
