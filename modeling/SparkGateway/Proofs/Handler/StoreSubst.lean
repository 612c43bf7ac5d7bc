import SparkGateway.Lib.Linearize
import SparkGateway.Spec.Handler

/-!
# `SparkGateway.Proofs.Handler.StoreSubst`: the handlers over another store

Every handler is written against the `AffinityStore` trait. So a handler over a store whose
operations are programs `f` is the handler over a store with single commands, with `f` in the place
of these commands. `handle_subst` is this equation for the twelve handlers. There is one equation
for each function on the way.
-/

set_option autoImplicit false

namespace SparkGateway.Proofs.Handler

open SparkGateway.Lib
open SparkGateway.Spec

section
variable {S T : Sig} (f : (c : S.Cmd) → Prog T (S.Reply c)) {α β : Type}

/-- The store with its commands replaced. -/
def substStore (store : AffinityStore S) : AffinityStore T where
  lookupSession key := (store.lookupSession key).subst f
  bindSessionIfAbsent key backend := (store.bindSessionIfAbsent key backend).subst f
  forgetSession key := (store.forgetSession key).subst f
  lookupOp opId := (store.lookupOp opId).subst f
  bindOp opId backend := (store.bindOp opId backend).subst f
  forgetOp opId := (store.forgetOp opId).subst f

/-- The commands of the router: only those of the store are replaced. -/
def routerSubst : (c : (RouterSig S).Cmd) → Prog (RouterSig T) ((RouterSig S).Reply c) :=
  Prog.sumSubst Prog.perform f

/-- The commands of a handler: only those of the store are replaced. -/
def gatewaySubst : (c : (GatewaySig S).Cmd) → Prog (GatewaySig T) ((GatewaySig S).Reply c) :=
  Prog.sumSubst (routerSubst f) Prog.perform

/-- The router over the other store. -/
def substRouter (r : Router S) : Router T := ⟨r.tenants, substStore f r.store⟩

/-- The gateway over the other store. -/
def substGateway (gw : Gateway S) : Gateway T :=
  ⟨substRouter f gw.router, gw.tenantResolver, gw.rateLimited, gw.audit⟩

/-- A handler computation with the commands of the store replaced. -/
def substRpc (x : RpcM S α) : RpcM T α := ExceptT.mk (x.run.subst (gatewaySubst f))

variable {f}

/-! ### The router -/

/-- The routing of the tenants does not depend on the store. -/
theorem substRouter_tenants (r : Router S) : (substRouter f r).tenants = r.tenants := rfl

/-- A pick issues no command of the store. -/
theorem pick_subst (pool : PoolId) :
    (Router.pick pool : Prog (RouterSig S) (Option String)).subst (routerSubst f)
      = Router.pick pool := by
  simp [Router.pick, routerSubst]

/-- A store program is replaced within the router as it is alone. -/
theorem storeOp_subst (p : Prog S α) :
    (p.inr : Prog (RouterSig S) α).subst (routerSubst f) = (p.subst f).inr := by
  simp [routerSubst]

section
variable (r : Router S) (key : SessionKey)

/-- `resolve_session_detailed` within one pool, over the other store. -/
theorem resolveIn_subst (pool : PoolId) :
    (r.resolveIn pool key).subst (routerSubst f) = (substRouter f r).resolveIn pool key := by
  refine Prog.subst_bind_eq (storeOp_subst _) fun found => ?_
  cases found with
  | some existing => rfl
  | none =>
    refine Prog.subst_bind_eq (pick_subst pool) fun picked => ?_
    cases picked with
    | none => rfl
    | some chosen => exact Prog.subst_bind_eq (storeOp_subst _) fun _ => rfl

/-- `resolve_session_detailed` over the other store. -/
theorem resolveSessionDetailed_subst :
    (r.resolveSessionDetailed key).subst (routerSubst f)
      = (substRouter f r).resolveSessionDetailed key := by
  unfold Router.resolveSessionDetailed
  rw [substRouter_tenants]
  rcases r.tenants.poolFor key.tenant with status | _ | pool
  · rfl
  · rfl
  · dsimp only
    split
    · exact Prog.subst_bind_eq (pick_subst pool) fun _ => rfl
    · exact Prog.subst_bind_eq (resolveIn_subst r key pool) fun _ => rfl

/-- `resolve_session` over the other store. -/
theorem resolveSession_subst :
    (r.resolveSession key).subst (routerSubst f) = (substRouter f r).resolveSession key :=
  Prog.subst_bind_eq (resolveSessionDetailed_subst r key) fun _ => rfl

/-- `resolve_op` over the other store. -/
theorem resolveOp_subst (opId : String) :
    (r.resolveOp opId key).subst (routerSubst f) = (substRouter f r).resolveOp opId key := by
  unfold Router.resolveOp
  split
  · exact resolveSession_subst r key
  · refine Prog.subst_bind_eq (storeOp_subst _) fun found => ?_
    cases found with
    | some b => rfl
    | none => exact resolveSession_subst r key

/-- `remember_op` over the other store. -/
theorem rememberOp_subst (opId backend : String) :
    (r.rememberOp opId backend).subst (routerSubst f)
      = (substRouter f r).rememberOp opId backend := by
  unfold Router.rememberOp
  split
  · rfl
  · exact storeOp_subst _

/-- `forget_op` over the other store. -/
theorem forgetOp_subst (opId : String) :
    (r.forgetOp opId).subst (routerSubst f) = (substRouter f r).forgetOp opId := by
  unfold Router.forgetOp
  split
  · rfl
  · exact storeOp_subst _

end

/-! ### The steps of a handler -/

/-- The commands of the proxy are left as they are. -/
theorem proxy_subst (c : ProxyCmd) :
    (proxy c : Prog (GatewaySig S) _).subst (gatewaySubst f) = proxy c := by
  simp [proxy, gatewaySubst]

/-- The router's functions are replaced within the gateway as they are alone. -/
theorem route_subst (p : Prog (RouterSig S) α) :
    (route p).subst (gatewaySubst f) = route (p.subst (routerSubst f)) := by
  simp [route, gatewaySubst]

/-- `emit` issues no command of the store. -/
theorem emit_subst (gw : Gateway S) (event : AuditEvent) :
    (gw.emit event).subst (gatewaySubst f) = (substGateway f gw).emit event := by
  unfold Gateway.emit
  change Prog.subst _ _ = if gw.audit.writes event then _ else _
  split
  · exact proxy_subst _
  · rfl

/-- A handler computation, part by part. -/
theorem substRpc_bind {x : RpcM S α} {g : α → RpcM S β} {x' : RpcM T α} {g' : α → RpcM T β}
    (hx : substRpc f x = x') (hg : ∀ a, substRpc f (g a) = g' a) :
    substRpc f (x >>= g) = x' >>= g' := by
  refine Prog.subst_bind_eq hx fun out => ?_
  cases out with
  | ok a => exact hg a
  | error status => rfl

/-- A lifted program is replaced under the lift. -/
theorem substRpc_lift (p : Prog (GatewaySig S) α) {q : Prog (GatewaySig T) α}
    (hp : p.subst (gatewaySubst f) = q) :
    substRpc f (ExceptT.lift p) = ExceptT.lift q :=
  Prog.subst_bind_eq hp fun _ => rfl

section
variable (gw : Gateway S)

/-- The resolver of the tenants does not depend on the store. -/
theorem substGateway_tenantResolver :
    (substGateway f gw).tenantResolver = gw.tenantResolver := rfl

/-- `client` issues no command of the store. -/
theorem client_subst (addr : String) :
    substRpc f (Gateway.client addr : RpcM S Unit) = Gateway.client addr := by
  refine Prog.subst_bind_eq (proxy_subst _) fun out => ?_
  cases out <;> rfl

/-- `forward` issues no command of the store. -/
theorem forward_subst (addr rid : String) (req : Request) :
    substRpc f (Gateway.forward addr rid req : RpcM S Response) = Gateway.forward addr rid req :=
  substRpc_bind (client_subst addr) fun _ => proxy_subst _

/-- `authenticate` issues no command of the store. -/
theorem authenticate_subst (metadata : MetadataMap) (rid rpc : String) :
    substRpc f (gw.authenticate metadata rid rpc)
      = (substGateway f gw).authenticate metadata rid rpc := by
  refine Prog.subst_bind_eq (proxy_subst _) fun out => ?_
  cases out with
  | ok identity => rfl
  | error status =>
    refine Prog.subst_bind_eq (proxy_subst _) fun _ => ?_
    exact Prog.subst_bind_eq (emit_subst gw _) fun _ => rfl

/-- `resolve_tenant` issues no command of the store. -/
theorem resolveTenant_subst (metadata : MetadataMap) (identity : Identity) (rid rpc : String) :
    substRpc f (gw.resolveTenant metadata identity rid rpc)
      = (substGateway f gw).resolveTenant metadata identity rid rpc := by
  unfold Gateway.resolveTenant
  rw [substGateway_tenantResolver]
  cases gw.tenantResolver.resolve metadata identity with
  | ok tenant => rfl
  | error status =>
    refine Prog.subst_bind_eq (proxy_subst _) fun _ => ?_
    exact Prog.subst_bind_eq (emit_subst gw _) fun _ => rfl

/-- The limiter's check issues no command of the store. -/
theorem limit_subst (tenant userId : String) :
    substRpc f (gw.limit tenant userId) = (substGateway f gw).limit tenant userId := by
  unfold Gateway.limit
  change substRpc f _ = ExceptT.mk (if gw.rateLimited = true then _ else _)
  split
  · exact Prog.subst_bind_eq (proxy_subst _) fun _ => rfl
  · rfl

/-- The admission of a caller issues no command of the store. -/
theorem authenticateAndResolve_subst (metadata : MetadataMap) (rid rpc : String) :
    substRpc f (gw.authenticateAndResolve metadata rid rpc)
      = (substGateway f gw).authenticateAndResolve metadata rid rpc := by
  refine substRpc_bind (authenticate_subst gw metadata rid rpc) fun identity => ?_
  refine substRpc_bind (resolveTenant_subst gw metadata identity rid rpc) fun tenant => ?_
  exact substRpc_bind (limit_subst gw tenant identity.userId) fun _ => rfl

/-- Routing by session over the other store. -/
theorem sessionAddr_subst (key : SessionKey) (rid : String) (identity : Identity) :
    substRpc f (gw.sessionAddr key rid identity)
      = (substGateway f gw).sessionAddr key rid identity := by
  refine Prog.subst_bind_eq ?_ fun _ => rfl
  refine Prog.subst_bind_eq ((route_subst _).trans
    (congrArg route (resolveSessionDetailed_subst gw.router key))) fun out => ?_
  rcases out with status | _ | o
  · rfl
  · rfl
  · dsimp only
    split
    · exact Prog.subst_bind_eq (emit_subst gw _) fun _ => rfl
    · rfl

/-- Routing by operation over the other store. -/
theorem opAddr_subst (opId : String) (key : SessionKey) :
    substRpc f (gw.opAddr opId key) = (substGateway f gw).opAddr opId key :=
  Prog.subst_bind_eq ((route_subst _).trans
    (congrArg route (resolveOp_subst gw.router key opId))) fun _ => rfl

/-- The report of a result issues no command of the store. -/
theorem finaliseRpc_subst (result : Except Status Response) (ctx : Option (String × String))
    (rid rpc : String) :
    (gw.finaliseRpc result ctx rid rpc).subst (gatewaySubst f)
      = (substGateway f gw).finaliseRpc result ctx rid rpc := by
  rcases ctx with _ | ⟨tenant, userId⟩
  · rfl
  · cases result with
    | ok resp => exact emit_subst gw _
    | error status =>
      unfold Gateway.finaliseRpc
      dsimp only
      split
      · rfl
      · exact emit_subst gw _

/-- The frame, for a body that follows the store. -/
theorem handleRpc_subst (rpc : String) (metadata : MetadataMap)
    {body : String → Identity → String → RpcM S Response}
    {body' : String → Identity → String → RpcM T Response}
    (hbody : ∀ rid identity tenant, substRpc f (body rid identity tenant)
      = body' rid identity tenant) :
    (gw.handleRpc rpc metadata body).subst (gatewaySubst f)
      = (substGateway f gw).handleRpc rpc metadata body' := by
  refine Prog.subst_bind_eq (proxy_subst _) fun rid => ?_
  refine Prog.subst_bind_eq (authenticateAndResolve_subst gw metadata rid rpc) fun out => ?_
  rcases out with status | ⟨identity, tenant⟩
  · refine Prog.subst_bind_eq (finaliseRpc_subst gw _ _ _ _) fun _ => ?_
    exact Prog.subst_bind_eq (proxy_subst _) fun _ => rfl
  · refine Prog.subst_bind_eq (hbody rid identity tenant) fun result => ?_
    refine Prog.subst_bind_eq (finaliseRpc_subst gw _ _ _ _) fun _ => ?_
    exact Prog.subst_bind_eq (proxy_subst _) fun _ => rfl

/-! ### The bodies -/

section
variable (rid : String) (identity : Identity) (tenant : String)

/-- The bodies that only forward for a session, over the other store. -/
theorem sessionBody_subst (wrap : Message Payload → Request) (m : Message Payload) :
    substRpc f (gw.sessionBody wrap m rid identity tenant)
      = (substGateway f gw).sessionBody wrap m rid identity tenant :=
  substRpc_bind (sessionAddr_subst gw _ rid identity) fun _ => forward_subst _ _ _

/-- The body of `Interrupt` over the other store. -/
theorem interruptBody_subst (m : Message InterruptBody) :
    substRpc f (gw.interruptBody m rid identity tenant)
      = (substGateway f gw).interruptBody m rid identity tenant :=
  substRpc_bind (opAddr_subst gw _ _) fun _ => forward_subst _ _ _

/-- The body of `ReleaseExecute` over the other store. -/
theorem releaseExecuteBody_subst (m : Message ReleaseExecuteBody) :
    substRpc f (gw.releaseExecuteBody m rid identity tenant)
      = (substGateway f gw).releaseExecuteBody m rid identity tenant := by
  refine substRpc_bind (opAddr_subst gw _ _) fun _ => ?_
  refine substRpc_bind (forward_subst _ _ _) fun _ => ?_
  refine substRpc_bind (substRpc_lift _ ?_) fun _ => rfl
  exact (route_subst _).trans (congrArg route (forgetOp_subst gw.router _))

/-- The body of `ReleaseSession` over the other store. -/
theorem releaseSessionBody_subst (m : Message Payload) :
    substRpc f (gw.releaseSessionBody m rid identity tenant)
      = (substGateway f gw).releaseSessionBody m rid identity tenant := by
  refine substRpc_bind (sessionAddr_subst gw _ rid identity) fun _ => ?_
  refine substRpc_bind (forward_subst _ _ _) fun _ => ?_
  refine substRpc_bind (substRpc_lift _ ?_) fun _ => ?_
  · exact (route_subst _).trans (congrArg route (storeOp_subst _))
  · exact substRpc_bind (substRpc_lift _ (emit_subst gw _)) fun _ => rfl

/-- The body of `ExecutePlan` over the other store. -/
theorem executePlanBody_subst (m : Message ExecutePlanBody) :
    substRpc f (gw.executePlanBody m rid identity tenant)
      = (substGateway f gw).executePlanBody m rid identity tenant := by
  refine substRpc_bind (sessionAddr_subst gw _ rid identity) fun addr => ?_
  dsimp only
  split
  · split
    · refine substRpc_bind (substRpc_lift _ ?_) fun _ => forward_subst _ _ _
      exact (route_subst _).trans (congrArg route (rememberOp_subst gw.router _ _))
    · exact forward_subst _ _ _
  · exact forward_subst _ _ _

/-- The body of `ReattachExecute` over the other store. -/
theorem reattachExecuteBody_subst (m : Message ReattachExecuteBody) :
    substRpc f (gw.reattachExecuteBody m rid identity tenant)
      = (substGateway f gw).reattachExecuteBody m rid identity tenant :=
  substRpc_bind (opAddr_subst gw _ _) fun _ => forward_subst _ _ _

/-- The body of `AddArtifacts` over the other store. -/
theorem addArtifactsBody_subst (inbound : ClientStream) :
    substRpc f (gw.addArtifactsBody inbound rid identity tenant)
      = (substGateway f gw).addArtifactsBody inbound rid identity tenant := by
  unfold Gateway.addArtifactsBody
  split
  · rfl
  · rfl
  · refine substRpc_bind (sessionAddr_subst gw _ rid identity) fun addr => ?_
    refine substRpc_bind (client_subst addr) fun _ => ?_
    exact substRpc_bind (substRpc_lift _ (proxy_subst _)) fun _ => rfl

end

/-- **The twelve handlers over another store.** A handler whose store commands are replaced by
programs of another store is the handler of the gateway over that store. -/
theorem handle_subst (rpc : Rpc) :
    (gw.handle rpc).subst (gatewaySubst f) = (substGateway f gw).handle rpc := by
  cases rpc with
  | addArtifacts md inbound =>
    exact handleRpc_subst gw _ md fun _ _ _ => addArtifactsBody_subst gw _ _ _ inbound
  | request md req =>
    cases req with
    | analyzePlan m => exact handleRpc_subst gw _ md fun _ _ _ => sessionBody_subst gw _ _ _ _ m
    | config m => exact handleRpc_subst gw _ md fun _ _ _ => sessionBody_subst gw _ _ _ _ m
    | artifactStatus m =>
      exact handleRpc_subst gw _ md fun _ _ _ => sessionBody_subst gw _ _ _ _ m
    | interrupt m => exact handleRpc_subst gw _ md fun _ _ _ => interruptBody_subst gw _ _ _ m
    | releaseExecute m =>
      exact handleRpc_subst gw _ md fun _ _ _ => releaseExecuteBody_subst gw _ _ _ m
    | releaseSession m =>
      exact handleRpc_subst gw _ md fun _ _ _ => releaseSessionBody_subst gw _ _ _ m
    | fetchErrorDetails m =>
      exact handleRpc_subst gw _ md fun _ _ _ => sessionBody_subst gw _ _ _ _ m
    | cloneSession m => exact handleRpc_subst gw _ md fun _ _ _ => sessionBody_subst gw _ _ _ _ m
    | getStatus m => exact handleRpc_subst gw _ md fun _ _ _ => sessionBody_subst gw _ _ _ _ m
    | executePlan m => exact handleRpc_subst gw _ md fun _ _ _ => executePlanBody_subst gw _ _ _ m
    | reattachExecute m =>
      exact handleRpc_subst gw _ md fun _ _ _ => reattachExecuteBody_subst gw _ _ _ m

end

end

end SparkGateway.Proofs.Handler
