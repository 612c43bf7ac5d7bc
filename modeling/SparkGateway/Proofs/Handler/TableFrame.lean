import SparkGateway.Proofs.Handler.TransitionCases

/-!
# `SparkGateway.Proofs.Handler.TableFrame`: what an RPC may change in the affinity tables

An RPC has two points at which it can be refused before anything is sent: admission
(authentication, tenant, limiter) and routing. `tables_frame` says that a refused RPC leaves both
tables alone and contacts no one, and for any other RPC it lists the only entries that can change
and how:

* `SessionFrame`: the caller's own session goes from unbound to the address just picked, or is
  removed by a `ReleaseSession` that was answered Ok;
* `OpFrame`: the operation that the request names is set by an `ExecutePlan` to the address it is
  forwarded to, or is removed by a `ReleaseExecute` that was answered Ok.
-/

set_option autoImplicit false

namespace SparkGateway.Proofs.Handler

open SparkGateway.Lib
open SparkGateway.Spec

/-- What the part of the handler that routes ends with: an address, or the status of a refusal. -/
def routedTo (gw : Gateway MemorySig) (env : Env) (rpc : Rpc) (id : Identity) (tenant : String)
    (s : MemoryStore.State) : Except Status String :=
  (observe env MemoryStore.apply (addrOf gw rpc env.requestId id tenant).run s).1

/-- The RPC leaves both tables as they are, and nothing is forwarded. -/
def Untouched (gw : Gateway MemorySig) (env : Env) (rpc : Rpc) (s : MemoryStore.State) : Prop :=
  (runRpc gw MemoryStore.apply env rpc s).state = s ∧
    contacts (effects (runRpc gw MemoryStore.apply env rpc s).trace) = []

/-- The request names an operation that the index knows. -/
def NamesKnownOp (rpc : Rpc) (s : MemoryStore.State) : Prop :=
  ∃ opId b, opOf rpc = some opId ∧ opId ≠ "" ∧ s.ops opId = some b

section
variable (gw : Gateway MemorySig) (env : Env) (rpc : Rpc) (id : Identity) (tenant addr : String)
  (s : MemoryStore.State)

/-- What an RPC that is routed to `addr` may do to a session's entry. It stays, or it is the
entry of the caller's own session. Then it was unbound and is now bound to `addr`, which the
tenant's pool has just picked, the session id is not empty and the RPC was not routed by an
operation. Or it is gone, and the RPC is a `ReleaseSession` that was answered Ok. -/
def SessionFrame (key : SessionKey) : Prop :=
  let run := runRpc gw MemoryStore.apply env rpc s
  run.state.sessions key = s.sessions key ∨
  ∃ sessionId, sessionOf rpc = some sessionId ∧ key = ⟨tenant, id.userId, sessionId⟩ ∧
    ((s.sessions key = none ∧ run.state.sessions key = some addr ∧ sessionId ≠ "" ∧
        ¬ NamesKnownOp rpc s ∧ ∃ pool, gw.router.tenants.poolFor tenant = .ok (some pool) ∧
          (pool, addr) ∈ picks (effects run.trace)) ∨
      (run.state.sessions key = none ∧ run.value.isOk = true ∧
        ∃ md m, rpc = .request md (.releaseSession m)))

/-- What an RPC that is routed to `addr` may do to an operation's entry. It stays, or the request
names the operation: an `ExecutePlan` with this id, not empty, has set it to `addr`, or a
`ReleaseExecute` of it was answered Ok and it is gone. -/
def OpFrame (opId : String) : Prop :=
  let run := runRpc gw MemoryStore.apply env rpc s
  run.state.ops opId = s.ops opId ∨
  (run.state.ops opId = some addr ∧ opId ≠ "" ∧
    ∃ md m, rpc = .request md (.executePlan m) ∧ m.body.operationId = some opId) ∨
  (run.state.ops opId = none ∧ run.value.isOk = true ∧
    ∃ md m, rpc = .request md (.releaseExecute m) ∧ m.body.operationId = opId)

end

section
variable {gw : Gateway MemorySig} {env : Env} {rpc : Rpc} {id : Identity} {tenant : String}
  {s : MemoryStore.State}

/-! ### Refusals -/

/-- An RPC that gets no address has left the tables alone. -/
theorem routeOf_tables_of_none {r : TenantRouter}
    (h : (routeOf r env rpc id tenant s).addr = none) :
    (routeOf r env rpc id tenant s).tables = s := by
  rcases routeOf_cases r env rpc id tenant s with heq | ⟨opId, b, -, -, heq⟩ | ⟨sessionId, heq⟩
  · rw [heq]
  · rw [heq]
  · rcases routeBySession_cases r env (keyFromIdentity tenant sessionId id) s with
      hnone | ⟨pool, addr, -, ⟨-, hsome⟩ | ⟨-, hsome⟩ | ⟨-, hsome⟩⟩
    · rw [heq, hnone]
    -- The other ways to route by session end with an address.
    all_goals
      rw [heq, hsome] at h
      cases h

variable (hstore : gw.router.store = MemoryStore.store)
include hstore

/-- What the code's routing ends with is the address of the transition. -/
theorem routeOf_addr (env : Env) (rpc : Rpc) (id : Identity) (tenant : String)
    (s : MemoryStore.State) :
    (routeOf gw.router.tenants env rpc id tenant s).addr
      = (routedTo gw env rpc id tenant s).toOption :=
  (routes_addrOf env s hstore id tenant rpc).1.symm

/-- A transition that keeps the tables and contacts nobody is a run that touches nothing. -/
theorem untouched_of_transition (hnext : (transition gw env rpc s).next = s)
    (hcontact : (transition gw env rpc s).contact = none) : Untouched gw env rpc s := by
  obtain ⟨hstate, hcontacts, -⟩ := runRpc_transition env s hstore rpc
  refine ⟨hstate.trans hnext, ?_⟩
  rw [hcontacts, hcontact]
  rfl

/-- A caller that is refused leaves the tables alone. -/
theorem untouched_of_refused {status : Status}
    (hadm : admission gw env rpc.metadata = .error status) : Untouched gw env rpc s := by
  refine untouched_of_transition hstore ?_ ?_
  · rw [transition, hadm]
  · rw [transition, hadm]

/-- An RPC without an address leaves the tables alone. -/
theorem untouched_of_unrouted (hadm : admission gw env rpc.metadata = .ok (id, tenant))
    {status : Status} (hrouted : routedTo gw env rpc id tenant s = .error status) :
    Untouched gw env rpc s := by
  have haddr : (routeOf gw.router.tenants env rpc id tenant s).addr = none := by
    rw [routeOf_addr hstore, hrouted]
    rfl
  refine untouched_of_transition hstore ?_ ?_
  · rw [transition, hadm]
    simp only [haddr]
    exact routeOf_tables_of_none haddr
  · rw [transition, hadm]
    simp only [haddr]

/-! ### RPCs with an address -/

section
variable (hadm : admission gw env rpc.metadata = .ok (id, tenant)) {addr : String}
  (hrouted : routedTo gw env rpc id tenant s = .ok addr)
include hadm hrouted

omit hstore in
/-- The client gets what the backend at the address answers. -/
theorem value_eq_answerOf :
    (runRpc gw MemoryStore.apply env rpc s).value = answerOf env rpc id addr := by
  obtain ⟨hvalue, -, -⟩ := runRpc_of_admitted MemoryStore.apply s hadm
  rw [hvalue, observe_body]
  unfold routedTo at hrouted
  rw [observe_addrOf] at hrouted
  rcases hrun : routing env MemoryStore.apply gw rpc id tenant s with ⟨value, s', es⟩
  rw [hrun] at hrouted
  simp only at hrouted
  subst hrouted
  rfl

omit hstore in
/-- An answer is Ok if the backend was reached and answered Ok. -/
theorem value_isOk {md : MetadataMap} {req : Request} (hrpc : rpc = .request md req)
    (hok : answeredOk env addr (stampRequest id req) = true) :
    (runRpc gw MemoryStore.apply env rpc s).value.isOk = true := by
  rw [value_eq_answerOf hadm hrouted, hrpc, answerOf_isOk, hok]

/-- What an RPC with an address can do to the entry of a session. -/
theorem sessionFrame (key : SessionKey) : SessionFrame gw env rpc id tenant addr s key := by
  obtain ⟨hstate, -, hpicks⟩ := runRpc_transition env s hstore rpc
  have haddr := routeOf_addr hstore env rpc id tenant s
  rw [hrouted] at haddr
  unfold SessionFrame
  simp only [hstate, hpicks]
  rcases transition_session_cases gw env rpc s key with
    ⟨hrel, hnone⟩ | ⟨-, ⟨picked, hbinds, hsome⟩ | ⟨-, hsame⟩⟩
  · obtain ⟨md, m, addr', hrpc, hkey, haddr', hok⟩ := (releases_iff hadm).mp hrel
    obtain rfl : addr' = addr := Option.some.inj (haddr'.symm.trans haddr)
    refine .inr ⟨m.sessionId, by rw [hrpc]; rfl, hkey, .inr ⟨hnone, ?_, md, m, hrpc⟩⟩
    exact value_isOk hadm hrouted hrpc hok
  · -- Routing by session, with no entry: the pick is bound and is the address.
    obtain ⟨pool, hpool, hroute⟩ := routeOf_of_binds hbinds hadm
    rw [hroute] at haddr
    obtain rfl : picked = addr := Option.some.inj haddr
    obtain ⟨⟨id', tenant', sessionId, hadm', hsession, hkey, hop⟩, hzero, hunbound, -⟩ := hbinds
    obtain ⟨rfl, rfl⟩ := Prod.mk.inj (Except.ok.inj (hadm.symm.trans hadm'))
    refine .inr ⟨sessionId, hsession, hkey, .inl ⟨hunbound, hsome, ?_, ?_, pool, ?_, ?_⟩⟩
    · rintro rfl
      rw [hkey] at hzero
      cases hzero
    · rintro ⟨opId, b, hopOf, hne, hb⟩
      rcases hop opId hopOf with hempty | hunknown
      · exact hne hempty
      · cases hunknown.symm.trans hb
    · rw [hkey] at hpool
      exact hpool
    · rw [transition_picked hadm, hroute]
      exact List.mem_singleton_self _
  · exact .inl hsame

/-- What an RPC with an address can do to the entry of an operation. -/
theorem opFrame (opId : String) : OpFrame gw env rpc addr s opId := by
  obtain ⟨hstate, -, -⟩ := runRpc_transition env s hstore rpc
  have haddr := routeOf_addr hstore env rpc id tenant s
  rw [hrouted] at haddr
  unfold OpFrame
  simp only [hstate]
  rcases transition_op_cases gw env rpc s opId with hsame | ⟨addr', hsets⟩ | hclears
  · exact .inl hsame
  · -- `ExecutePlan` of this operation: its address is the one that the RPC was routed to.
    have hops := transition_ops_of_sets hsets
    obtain ⟨hne, id', tenant', md, m, hadm', hrpc, hop, haddr'⟩ := hsets
    obtain ⟨rfl, rfl⟩ := Prod.mk.inj (Except.ok.inj (hadm.symm.trans hadm'))
    obtain rfl : addr' = addr := Option.some.inj (haddr'.symm.trans haddr)
    refine .inr (.inl ⟨?_, hne, md, m, hrpc, hop⟩)
    rw [hops, Function.update_self]
  · -- `ReleaseExecute` of this operation, answered Ok.
    have hops := transition_ops_of_clears hclears
    obtain ⟨-, id', tenant', md, m, addr', hadm', hrpc, hop, haddr', hok⟩ := hclears
    obtain ⟨rfl, rfl⟩ := Prod.mk.inj (Except.ok.inj (hadm.symm.trans hadm'))
    obtain rfl : addr' = addr := Option.some.inj (haddr'.symm.trans haddr)
    refine .inr (.inr ⟨?_, value_isOk hadm hrouted hrpc hok, md, m, hrpc, hop⟩)
    rw [hops, Function.update_self]

end

end

/-- **The frame of an RPC.** On a `MemoryStore`, for every RPC, caller, state and answer of the
world: if authentication, the tenant resolver or the limiter refuses the RPC, or routing does, both
tables are as before and nothing was forwarded. Otherwise every session's entry and every
operation's entry is as before, up to the caller's own session and the operation that the request
names, which change as `SessionFrame` and `OpFrame` say. -/
theorem tables_frame (gw : Gateway MemorySig) (env : Env) (rpc : Rpc) (s : MemoryStore.State)
    (hstore : gw.router.store = MemoryStore.store) :
    (∀ status, admission gw env rpc.metadata = .error status → Untouched gw env rpc s) ∧
    ∀ id tenant, admission gw env rpc.metadata = .ok (id, tenant) →
      (∀ status, routedTo gw env rpc id tenant s = .error status → Untouched gw env rpc s) ∧
      ∀ addr, routedTo gw env rpc id tenant s = .ok addr →
        (∀ key, SessionFrame gw env rpc id tenant addr s key) ∧
          ∀ opId, OpFrame gw env rpc addr s opId := by
  refine ⟨fun status hadm => untouched_of_refused hstore hadm, fun id tenant hadm => ⟨?_, ?_⟩⟩
  · intro status hrouted
    exact untouched_of_unrouted hstore hadm hrouted
  · intro addr hrouted
    exact ⟨sessionFrame hstore hadm hrouted, opFrame hstore hadm hrouted⟩

/-- An `ExecutePlan` of a fresh session, which binds the session and the operation. -/
theorem tables_frame_executePlan :
    let gw := Gateway.inProcess (.single 0)
    let env := Env.healthy (Identity.user "alice") "be-a:15002"
    let rpc : Rpc := .request (fun _ => none)
      (.executePlan ⟨"sess-1", none, ⟨some "op-1", []⟩⟩)
    routedTo gw env rpc (Identity.user "alice") "default" MemoryStore.new = .ok "be-a:15002" ∧
      (∀ key, SessionFrame gw env rpc (Identity.user "alice") "default" "be-a:15002"
        MemoryStore.new key) ∧
      ∀ opId, OpFrame gw env rpc "be-a:15002" MemoryStore.new opId := by
  intro gw env rpc
  have hadm : admission gw env rpc.metadata = .ok (Identity.user "alice", "default") := rfl
  have hrouted : routedTo gw env rpc (Identity.user "alice") "default" MemoryStore.new
      = .ok "be-a:15002" := rfl
  exact ⟨hrouted, ((tables_frame gw env rpc MemoryStore.new rfl).2 _ _ hadm).2 _ hrouted⟩

end SparkGateway.Proofs.Handler
