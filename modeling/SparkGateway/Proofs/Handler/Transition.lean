import SparkGateway.Proofs.Handler.BodyRun

/-!
# `SparkGateway.Proofs.Handler.Transition`: an RPC as a transition of the routing tables

On a `MemoryStore` an RPC does three things that matter for routing: it changes the two tables,
it picks addresses from a pool, and it contacts at most one backend. `transition` says which,
as a function of the tables and the answers of the world. `runRpc_transition` proves that every
handler does exactly that, from the run of its body (`BodyRun.lean`). Proofs about histories of
RPCs use the transition and what it can do (`TransitionCases.lean`), and do not look into the
handlers.
-/

set_option autoImplicit false

namespace SparkGateway.Proofs.Handler

open SparkGateway.Lib
open SparkGateway.Spec

/-! ### Routing -/

/-- The addresses that a run picked, with their pools. -/
def picks (es : List Effect) : List (PoolId × String) :=
  es.filterMap fun
    | .picked pool addr => some (pool, addr)
    | _ => none

section
variable (r : TenantRouter) (env : Env)

/-- `resolve_session_detailed` on a `MemoryStore`: the outcome, the store, and the effects. -/
def sessionRoute (key : SessionKey) (s : MemoryStore.State) :
    Except Status (Option ResolveOutcome) × MemoryStore.State × List Effect :=
  match r.poolFor key.tenant with
  | .error status => (.error status, s, [])
  | .ok none => (.ok none, s, [])
  | .ok (some pool) =>
    if key.isZero then
      match env.pick pool with
      | none => (.ok none, s, [])
      | some addr => (.ok (some ⟨addr, false⟩), s, [.picked pool addr])
    else
      match s.sessions key, env.pick pool with
      | some existing, _ => (.ok (some ⟨existing, false⟩), s, [])
      | none, none => (.ok none, s, [])
      | none, some chosen =>
          (.ok (some ⟨chosen, true⟩),
            { s with sessions := Function.update s.sessions key (some chosen) },
            [.picked pool chosen])

/-- Over the in-process store, resolving a session is the abstract routing of it. -/
theorem resolved_memory (key : SessionKey) (s : MemoryStore.State) :
    resolved env MemoryStore.apply ⟨r, MemoryStore.store⟩ key s = sessionRoute r env key s := by
  unfold resolved sessionRoute
  cases r.poolFor key.tenant with
  | error status => rfl
  | ok pool? =>
    cases pool? with
    | none => rfl
    | some pool =>
      cases key.isZero with
      | true => cases hpick : env.pick pool <;> simp [picking, hpick]
      | false =>
        have hfound : served MemoryStore.apply (MemoryStore.store.lookupSession key) s
            = (s.sessions key, s) := rfl
        simp only [Bool.false_eq_true, if_false, hfound]
        cases hold : s.sessions key with
        | some existing => rfl
        | none =>
          cases env.pick pool with
          | none => rfl
          | some chosen =>
            -- No one else has bound the key since the lookup.
            have hbound : served MemoryStore.apply
                (MemoryStore.store.bindSessionIfAbsent key chosen) s = (chosen,
                  { s with sessions := Function.update s.sessions key (some chosen) }) :=
              MemoryStore.apply_bind_of_none hold chosen
            simp [hbound]

end

/-- Where a request is routed: the address if there is one, the tables, and what was picked. -/
structure Routed where
  addr : Option String
  tables : MemoryStore.State
  picked : List (PoolId × String)

section
variable (r : TenantRouter) (env : Env)

/-- Routing by session. -/
def routeBySession (key : SessionKey) (s : MemoryStore.State) : Routed :=
  let (outcome, s', es) := sessionRoute r env key s
  ⟨outcome.toOption.join.map (·.addr), s', picks es⟩

/-- Routing by operation: a known operation goes to its backend, any other one by session. -/
def routeByOp (opId : String) (key : SessionKey) (s : MemoryStore.State) : Routed :=
  match if opId == "" then none else s.ops opId with
  | some b => ⟨some b, s, []⟩
  | none => routeBySession r env key s

end

section
variable (r : TenantRouter) (env : Env)

/-- Routing of an RPC. -/
def routeOf (rpc : Rpc) (id : Identity) (tenant : String) (s : MemoryStore.State) : Routed :=
  match sessionOf rpc, opOf rpc with
  | none, _ => ⟨none, s, []⟩
  | some sessionId, some opId => routeByOp r env opId (keyFromIdentity tenant sessionId id) s
  | some sessionId, none => routeBySession r env (keyFromIdentity tenant sessionId id) s

end

/-- What an RPC does to the tables once it has an address. -/
def settle (env : Env) (rpc : Rpc) (id : Identity) (tenant addr : String)
    (s : MemoryStore.State) : MemoryStore.State :=
  match rpc with
  | .request _ (.executePlan m) =>
      match m.body.operationId with
      | some opId =>
          if opId == "" then s else { s with ops := Function.update s.ops opId (some addr) }
      | none => s
  | .request _ (.releaseExecute m) =>
      if answeredOk env addr (.releaseExecute (m.stamp id)) && m.body.operationId != "" then
        { s with ops := Function.update s.ops m.body.operationId none }
      else s
  | .request _ (.releaseSession m) =>
      if answeredOk env addr (.releaseSession (m.stamp id)) then
        { s with sessions :=
          Function.update s.sessions (keyFromIdentity tenant m.sessionId id) none }
      else s
  | _ => s

/-- What an RPC does on a `MemoryStore`. -/
structure Transition where
  next : MemoryStore.State
  contact : Option String
  picked : List (PoolId × String)

/-- The transition of an RPC. -/
def transition (gw : Gateway MemorySig) (env : Env) (rpc : Rpc) (s : MemoryStore.State) :
    Transition :=
  match admission gw env rpc.metadata with
  | .error _ => ⟨s, none, []⟩
  | .ok (id, tenant) =>
    let routed := routeOf gw.router.tenants env rpc id tenant s
    match routed.addr with
    | none => ⟨routed.tables, none, routed.picked⟩
    | some addr =>
        ⟨settle env rpc id tenant addr routed.tables,
          if (env.channel addr).isOk then some addr else none, routed.picked⟩

/-! ### The handlers do what the transition says -/

section
variable {α β : Type} (env : Env) (s : MemoryStore.State)

/-- What a handler computation does to the tables, whom it contacts and what it picks. -/
def trip (p : RpcM MemorySig α) (s : MemoryStore.State) :
    MemoryStore.State × List String × List (PoolId × String) :=
  let run := observe env MemoryStore.apply p.run s
  (run.2.1, contacts run.2.2, picks run.2.2)

theorem contacts_append (es es' : List Effect) :
    contacts (es ++ es') = contacts es ++ contacts es' := List.filterMap_append

theorem picks_append (es es' : List Effect) : picks (es ++ es') = picks es ++ picks es' :=
  List.filterMap_append

/-- Writing an audit event contacts nobody. -/
theorem contacts_writing {S : Sig} (gw : Gateway S) (event : AuditEvent) :
    contacts (writing gw event) = [] := by
  unfold writing
  split <;> rfl

/-- Writing an audit event picks nothing. -/
theorem picks_writing {S : Sig} (gw : Gateway S) (event : AuditEvent) :
    picks (writing gw event) = [] := by
  unfold writing
  split <;> rfl

/-- A step that routes: the address it returns, the tables after it and what it picked. It
contacts no one. -/
def Routes (p : RpcM MemorySig String) (s : MemoryStore.State) (routed : Routed) : Prop :=
  (observe env MemoryStore.apply p.run s).1.toOption = routed.addr ∧
    trip env p s = (routed.tables, [], routed.picked)

/-- The backends contacted when `addr` is dialed. -/
def dialed (addr : String) : List String := if (env.channel addr).isOk then [addr] else []

/-- A handler that routes and then does `settle` around a call of the backend. -/
def finish (routed : Routed) (settle : String → MemoryStore.State → MemoryStore.State) :
    MemoryStore.State × List String × List (PoolId × String) :=
  match routed.addr with
  | none => (routed.tables, [], routed.picked)
  | some addr => (settle addr routed.tables, dialed env addr, routed.picked)

/-- A sequence of two steps: an error ends the trip, a value goes on from the tables after the
first step. -/
theorem trip_bind (p : RpcM MemorySig α) (f : α → RpcM MemorySig β) :
    trip env (p >>= f) s =
      match (observe env MemoryStore.apply p.run s).1 with
      | .error _ => trip env p s
      | .ok a =>
          let rest := trip env (f a) (trip env p s).1
          (rest.1, (trip env p s).2.1 ++ rest.2.1, (trip env p s).2.2 ++ rest.2.2) := by
  unfold trip
  rw [observe_rpc_bind]
  rcases observe env MemoryStore.apply p.run s with ⟨value, s', es⟩
  cases value with
  | error status => rfl
  | ok a => simp only [contacts_append, picks_append]

/-- A handler that routes first: what it does is decided by where it was routed. -/
theorem trip_of_routes {p : RpcM MemorySig String} {f : String → RpcM MemorySig β}
    {routed : Routed} {settle : String → MemoryStore.State → MemoryStore.State}
    (hp : Routes env p s routed)
    (hf : ∀ addr s', routed.addr = some addr →
      trip env (f addr) s' = (settle addr s', dialed env addr, [])) :
    trip env (p >>= f) s = finish env routed settle := by
  obtain ⟨haddr, htrip⟩ := hp
  rw [trip_bind, htrip]
  unfold finish
  cases hvalue : (observe env MemoryStore.apply p.run s).1 with
  | error status =>
    rw [hvalue] at haddr
    rw [← haddr]
    rfl
  | ok addr =>
    rw [hvalue] at haddr
    have hrouted : routed.addr = some addr := haddr.symm
    rw [hrouted]
    -- Routing has contacted no one, and the rest picks nothing.
    show ((trip env (f addr) routed.tables).1, [] ++ (trip env (f addr) routed.tables).2.1,
      routed.picked ++ (trip env (f addr) routed.tables).2.2) = _
    rw [hf addr _ hrouted, List.nil_append, List.append_nil]

/-! ### The steps -/

/-- Routing by session contacts no one. -/
theorem contacts_sessionRoute (r : TenantRouter) (key : SessionKey) :
    contacts (sessionRoute r env key s).2.2 = [] := by
  unfold sessionRoute
  split
  · rfl
  · rfl
  · split
    · split <;> rfl
    · split <;> rfl

/-- The address of an outcome, whatever the error is. -/
theorem addrIn_toOption (outcome : Except Status (Option ResolveOutcome)) :
    (addrIn outcome).toOption = outcome.toOption.join.map (·.addr) := by
  rcases outcome with status | _ | o <;> rfl

/-- The event of a new binding is no contact and no pick. -/
theorem creating_silent {S : Sig} (gw : Gateway S) (rid : String) (id : Identity)
    (key : SessionKey) (outcome : Except Status (Option ResolveOutcome)) :
    contacts (creating gw rid id key outcome) = [] ∧
      picks (creating gw rid id key outcome) = [] := by
  unfold creating
  split
  · exact ⟨contacts_writing gw _, picks_writing gw _⟩
  · exact ⟨rfl, rfl⟩

/-- The event of a release is no contact and no pick. -/
theorem releasing_silent {S : Sig} (gw : Gateway S) (rpc : Rpc) (id : Identity)
    (tenant addr : String) :
    contacts (releasing env gw rpc id tenant addr) = [] ∧
      picks (releasing env gw rpc id tenant addr) = [] := by
  unfold releasing
  split
  · split
    · exact ⟨contacts_writing gw _, picks_writing gw _⟩
    · exact ⟨rfl, rfl⟩
  · exact ⟨rfl, rfl⟩

/-- Admission writes to the log only. -/
theorem admissionEffects_silent {S : Sig} (gw : Gateway S) (md : MetadataMap) (rid rpc : String) :
    contacts (admissionEffects gw env md rid rpc) = [] ∧
      picks (admissionEffects gw env md rid rpc) = [] := by
  unfold admissionEffects
  split
  · exact ⟨contacts_writing gw _, picks_writing gw _⟩
  · split
    · exact ⟨contacts_writing gw _, picks_writing gw _⟩
    · exact ⟨rfl, rfl⟩

/-- The report of the result writes to the log only. -/
theorem finalEffects_silent {S : Sig} (gw : Gateway S) (result : Except Status Response)
    (tenant userId rid rpc : String) :
    contacts (finalEffects gw result tenant userId rid rpc) = [] ∧
      picks (finalEffects gw result tenant userId rid rpc) = [] := by
  unfold finalEffects
  split
  · exact ⟨contacts_writing gw _, picks_writing gw _⟩
  · split
    · exact ⟨rfl, rfl⟩
    · exact ⟨contacts_writing gw _, picks_writing gw _⟩

/-- A router over the in-process store is given by its tenants. -/
theorem router_eq {gw : Gateway MemorySig} (hstore : gw.router.store = MemoryStore.store) :
    gw.router = ⟨gw.router.tenants, MemoryStore.store⟩ := by
  rw [← hstore]

section
variable {gw : Gateway MemorySig} (hstore : gw.router.store = MemoryStore.store) (id : Identity)
  (tenant : String)
include hstore

/-- Routing by session, with or without the event of a new binding. -/
theorem routes_of_resolved {p : RpcM MemorySig String} {key : SessionKey} (es : List Effect)
    (hrun : observe env MemoryStore.apply p.run s =
      let run := resolved env MemoryStore.apply gw.router key s
      (addrIn run.1, run.2.1, run.2.2 ++ es))
    (hcontacts : contacts es = []) (hpicks : picks es = []) :
    Routes env p s (routeBySession gw.router.tenants env key s) := by
  rw [router_eq hstore] at hrun
  simp only [resolved_memory] at hrun
  have hsession := contacts_sessionRoute env s gw.router.tenants key
  unfold Routes trip routeBySession
  rw [hrun]
  refine ⟨addrIn_toOption _, ?_⟩
  simp only [contacts_append, picks_append, hcontacts, hpicks, hsession, List.append_nil]

omit id tenant in
/-- The code's routing by session is the abstract one. -/
theorem routes_sessionAddr (key : SessionKey) (rid : String) (id : Identity) :
    Routes env (gw.sessionAddr key rid id) s (routeBySession gw.router.tenants env key s) :=
  routes_of_resolved env s hstore _ (observe_sessionAddr env _ gw key rid id s)
    (creating_silent gw rid id key _).1 (creating_silent gw rid id key _).2

omit id tenant in
/-- The code's routing by operation is the abstract one. -/
theorem routes_opAddr (opId : String) (key : SessionKey) :
    Routes env (gw.opAddr opId key) s (routeByOp gw.router.tenants env opId key s) := by
  have hrun := observe_opAddr env MemoryStore.apply gw opId key s
  have hindex : opServed MemoryStore.apply gw.router opId s
      = (if opId == "" then none else s.ops opId, s) := by
    rw [router_eq hstore]
    unfold opServed
    cases opId == "" with
    | true => rfl
    | false => rfl
  rw [hindex] at hrun
  unfold routeByOp
  cases hop : if opId == "" then none else s.ops opId with
  | some b =>
    rw [hop] at hrun
    unfold Routes trip
    rw [hrun]
    exact ⟨rfl, rfl⟩
  | none =>
    -- The fallback writes no event.
    rw [hop] at hrun
    refine routes_of_resolved env s hstore [] ?_ rfl rfl
    rw [hrun]
    simp only [List.append_nil]

/-- An RPC is routed as `routeOf` says. -/
theorem routes_addrOf (rpc : Rpc) :
    Routes env (addrOf gw rpc env.requestId id tenant) s
      (routeOf gw.router.tenants env rpc id tenant s) := by
  unfold addrOf routeOf
  cases sessionOf rpc with
  | none => exact ⟨rfl, rfl⟩
  | some sessionId =>
    cases opOf rpc with
    | none => exact routes_sessionAddr env s hstore _ _ id
    | some opId => exact routes_opAddr env s hstore opId _

/-- A delivery does to the tables what `settle` says, and contacts the backend if it can be
dialed. -/
theorem trip_deliver (rpc : Rpc) (hnamed : sessionOf rpc ≠ none) (addr : String) :
    trip env (deliver gw rpc env.requestId id tenant addr) s =
      (settle env rpc id tenant addr s, dialed env addr, []) := by
  -- Over the tables, what is settled is what the transition settles.
  have hsettled : settled env MemoryStore.apply gw rpc id tenant addr s
      = settle env rpc id tenant addr s := by
    unfold settled settle
    rw [hstore]
    rfl
  have hsilent := releasing_silent env gw rpc id tenant addr
  unfold trip
  rw [observe_deliver]
  simp only [hsettled, contacts_append, picks_append, hsilent, List.append_nil]
  unfold sending dialed
  -- Nothing is sent if the dial fails.
  cases env.channel addr with
  | error e => rfl
  | ok _ =>
    cases rpc with
    | request md req => rfl
    | addArtifacts md inbound =>
      obtain ⟨messages, ending⟩ := inbound
      -- An upload without a message has no session, and is not routed.
      cases messages with
      | nil => exact absurd rfl hnamed
      | cons m rest => rfl

/-- The trip of a body is what the routing and `settle` say. -/
theorem trip_body (rpc : Rpc) :
    trip env (bodyOf gw rpc env.requestId id tenant) s =
      finish env (routeOf gw.router.tenants env rpc id tenant s) (settle env rpc id tenant) := by
  rw [bodyOf_eq]
  refine trip_of_routes env s (routes_addrOf env s hstore id tenant rpc) fun addr s' haddr => ?_
  refine trip_deliver env s' hstore id tenant rpc (fun hnone => ?_) addr
  unfold routeOf at haddr
  rw [hnone] at haddr
  cases haddr

/-! ### The whole RPC -/

omit id tenant in
/-- **Every handler makes the transition of its RPC**: the tables after it, the backend it
contacts and the addresses it picks are those of `transition`. -/
theorem runRpc_transition (rpc : Rpc) :
    (runRpc gw MemoryStore.apply env rpc s).state = (transition gw env rpc s).next ∧
      contacts (effects (runRpc gw MemoryStore.apply env rpc s).trace) =
        (transition gw env rpc s).contact.toList ∧
      picks (effects (runRpc gw MemoryStore.apply env rpc s).trace) =
        (transition gw env rpc s).picked := by
  unfold transition
  cases hadm : admission gw env rpc.metadata with
  | error status =>
    -- Not admitted: the tables stay, and the log gets what there is.
    obtain ⟨-, hstate, heffects⟩ := runRpc_of_refused MemoryStore.apply s hadm
    have hsilent := admissionEffects_silent env gw rpc.metadata env.requestId rpc.name
    rw [hstate, heffects]
    exact ⟨rfl, hsilent.1, hsilent.2⟩
  | ok p =>
    obtain ⟨id, tenant⟩ := p
    obtain ⟨hvalue, hstate, heffects⟩ := runRpc_of_admitted MemoryStore.apply s hadm
    have hsilent := finalEffects_silent gw
      (observe env MemoryStore.apply (bodyOf gw rpc env.requestId id tenant).run s).1 tenant
      id.userId env.requestId rpc.name
    rw [hstate, heffects, contacts_append, picks_append, hsilent.1, hsilent.2, List.append_nil,
      List.append_nil]
    -- Admitted: the trip of the body, with nothing added by the report.
    have htrip := trip_body env s hstore id tenant rpc
    unfold finish at htrip
    simp only
    cases haddr : (routeOf gw.router.tenants env rpc id tenant s).addr with
    | none =>
      rw [haddr] at htrip
      obtain ⟨hnext, hrest⟩ := Prod.mk.inj htrip
      obtain ⟨hcontact, hpicked⟩ := Prod.mk.inj hrest
      exact ⟨hnext, hcontact, hpicked⟩
    | some addr =>
      rw [haddr] at htrip
      obtain ⟨hnext, hrest⟩ := Prod.mk.inj htrip
      obtain ⟨hcontact, hpicked⟩ := Prod.mk.inj hrest
      refine ⟨hnext, hcontact.trans ?_, hpicked⟩
      show (if (env.channel addr).isOk then [addr] else []) =
        (if (env.channel addr).isOk then some addr else none).toList
      cases (env.channel addr).isOk <;> rfl

end

end

end SparkGateway.Proofs.Handler
