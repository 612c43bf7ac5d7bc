import SparkGateway.Proofs.Handler.Transition

/-!
# `SparkGateway.Proofs.Handler.TransitionCases`: what a transition can do

Routing has few ways to end: by the operation index, by the binding of a session, or by a pick
(`routeOf_cases`, `routeBySession_cases`). The index changes in two ways only. An `ExecutePlan`
sets one entry (`Sets`), a `ReleaseExecute` that is answered Ok removes one (`Clears`), and
every other RPC leaves it alone (`transition_op_cases`). A session's entry changes in two ways as
well. An RPC that is routed by the session table and finds no entry enters what it picks
(`Binds`), a `ReleaseSession` that is answered Ok removes the entry (`Releases`), and every other
RPC leaves it alone (`transition_session_cases`). The invariants of histories are proved from
these cases, one step at a time.
-/

set_option autoImplicit false

namespace SparkGateway.Proofs.Handler

open SparkGateway.Lib
open SparkGateway.Spec

/-! ### Routing -/

section
variable {gw : Gateway MemorySig} {env : Env} {rpc : Rpc} {s : MemoryStore.State}

/-- The four ways to route by session: not at all, by a pick that is not bound, by the binding,
or by a pick that is bound. -/
theorem routeBySession_cases (r : TenantRouter) (env : Env) (key : SessionKey)
    (s : MemoryStore.State) :
    routeBySession r env key s = ⟨none, s, []⟩ ∨
    ∃ pool addr, r.poolFor key.tenant = .ok (some pool) ∧
      ((key.isZero = true ∧ routeBySession r env key s = ⟨some addr, s, [(pool, addr)]⟩) ∨
        (s.sessions key = some addr ∧ routeBySession r env key s = ⟨some addr, s, []⟩) ∨
        ((key.isZero = false ∧ s.sessions key = none ∧ env.pick pool = some addr) ∧
          routeBySession r env key s =
            ⟨some addr, { s with sessions := Function.update s.sessions key (some addr) },
              [(pool, addr)]⟩)) := by
  unfold routeBySession sessionRoute
  cases hpool : r.poolFor key.tenant with
  | error status => exact .inl rfl
  | ok pool? =>
    cases pool? with
    | none => exact .inl rfl
    | some pool =>
      -- A key without a session id always picks.
      cases hzero : key.isZero with
      | true =>
        cases hpick : env.pick pool with
        | none =>
          left
          simp [hpick, picks, Except.toOption]
        | some addr =>
          refine .inr ⟨pool, addr, rfl, .inl ⟨rfl, ?_⟩⟩
          simp [hpick, picks, Except.toOption]
      | false =>
        -- A bound session needs no pick, and an unbound one is bound to its pick.
        cases hold : s.sessions key with
        | some addr =>
          refine .inr ⟨pool, addr, rfl, .inr (.inl ⟨rfl, ?_⟩)⟩
          simp [picks, Except.toOption]
        | none =>
          cases hpick : env.pick pool with
          | none =>
            left
            simp [hpick, picks, Except.toOption]
          | some addr =>
            refine .inr ⟨pool, addr, rfl, .inr (.inr ⟨⟨rfl, rfl, hpick⟩, ?_⟩)⟩
            simp [hpick, picks, Except.toOption]

/-- The address that a session leads to: its binding, or else the pick of its tenant's pool. -/
def LeadsTo (r : TenantRouter) (env : Env) (key : SessionKey) (s : MemoryStore.State)
    (addr : String) : Prop :=
  ∃ pool, r.poolFor key.tenant = .ok (some pool) ∧
    ((if key.isZero then none else s.sessions key) <|> env.pick pool) = some addr

/-- Routing by session goes where the session leads. -/
theorem routeBySession_addr_iff (r : TenantRouter) (env : Env) (key : SessionKey)
    (s : MemoryStore.State) (addr : String) :
    (routeBySession r env key s).addr = some addr ↔ LeadsTo r env key s addr := by
  unfold routeBySession sessionRoute LeadsTo
  cases hpool : r.poolFor key.tenant with
  | error status => simp [Except.toOption]
  | ok pool? =>
    cases pool? with
    | none => simp [Except.toOption]
    | some pool =>
      -- The split follows the code: the pool, the session id, the entry, and the pick.
      cases hzero : key.isZero with
      | true =>
        cases hpick : env.pick pool with
        | none => simp [hpick, Except.toOption]
        | some chosen => simp [hpick, Except.toOption]
      | false =>
        cases hold : s.sessions key with
        | some existing => simp [Except.toOption]
        | none =>
          cases hpick : env.pick pool with
          | none => simp [hpick, Except.toOption]
          | some chosen => simp [hpick, Except.toOption]

/-- The three ways to route an RPC: not at all, by a known operation, or by session. -/
theorem routeOf_cases (r : TenantRouter) (env : Env) (rpc : Rpc) (id : Identity) (tenant : String)
    (s : MemoryStore.State) :
    routeOf r env rpc id tenant s = ⟨none, s, []⟩ ∨
    (∃ opId b, opOf rpc = some opId ∧ s.ops opId = some b ∧
      routeOf r env rpc id tenant s = ⟨some b, s, []⟩) ∨
    ∃ sessionId, routeOf r env rpc id tenant s =
      routeBySession r env (keyFromIdentity tenant sessionId id) s := by
  unfold routeOf
  split
  · exact .inl rfl
  · rename_i sessionId opId _ hop
    unfold routeByOp
    split
    · -- The index knows the operation, and its entry wins over the session's.
      rename_i b hb
      refine .inr (.inl ⟨opId, b, hop, ?_, rfl⟩)
      split at hb
      · cases hb
      · exact hb
    · exact .inr (.inr ⟨sessionId, rfl⟩)
  · rename_i sessionId _ _
    exact .inr (.inr ⟨sessionId, rfl⟩)

/-- Routing leaves the operation index alone. -/
theorem routeOf_ops (r : TenantRouter) (env : Env) (rpc : Rpc) (id : Identity) (tenant : String)
    (s : MemoryStore.State) : (routeOf r env rpc id tenant s).tables.ops = s.ops := by
  rcases routeOf_cases r env rpc id tenant s with h | ⟨opId, b, -, -, h⟩ | ⟨sessionId, h⟩
  · rw [h]
  · rw [h]
  · rw [h]
    rcases routeBySession_cases r env (keyFromIdentity tenant sessionId id) s with
      h | ⟨pool, addr, -, ⟨-, h⟩ | ⟨-, h⟩ | ⟨-, h⟩⟩ <;> rw [h]

/-- After the answer the index is as before, or has the operation of an `ExecutePlan`, or has lost
that of a `ReleaseExecute` answered Ok. -/
theorem settle_ops_cases (env : Env) (rpc : Rpc) (id : Identity) (tenant addr : String)
    (s : MemoryStore.State) :
    (settle env rpc id tenant addr s).ops = s.ops ∨
    (∃ md m opId, rpc = .request md (.executePlan m) ∧ m.body.operationId = some opId ∧
      opId ≠ "" ∧ (settle env rpc id tenant addr s).ops = Function.update s.ops opId (some addr)) ∨
    ∃ md m, rpc = .request md (.releaseExecute m) ∧ m.body.operationId ≠ "" ∧
      answeredOk env addr (.releaseExecute (m.stamp id)) = true ∧
      (settle env rpc id tenant addr s).ops = Function.update s.ops m.body.operationId none := by
  unfold settle
  split
  · -- `ExecutePlan`, with or without an operation id.
    rename_i md m
    split
    · rename_i opId hop
      split
      · exact .inl rfl
      · rename_i hempty
        exact .inr (.inl ⟨md, m, opId, rfl, hop, by simpa using hempty, rfl⟩)
    · exact .inl rfl
  · -- `ReleaseExecute`, answered Ok or not.
    rename_i md m
    split
    · rename_i hok
      obtain ⟨hanswer, hop⟩ := Bool.and_eq_true_iff.mp hok
      exact .inr (.inr ⟨md, m, rfl, by simpa using hop, hanswer, rfl⟩)
    · exact .inl rfl
  · split <;> exact .inl rfl
  · exact .inl rfl

/-- Once it has an address, an RPC binds no session. -/
theorem settle_sessions {env : Env} {rpc : Rpc} {id : Identity} {tenant addr : String}
    {s : MemoryStore.State} {key : SessionKey} {bound : String}
    (h : (settle env rpc id tenant addr s).sessions key = some bound) :
    s.sessions key = some bound := by
  unfold settle at h
  split at h
  · split at h
    · split at h <;> exact h
    · exact h
  · split at h <;> exact h
  · -- `ReleaseSession` removes a binding and leaves the others.
    rename_i md m
    split at h
    · by_cases hkey : key = keyFromIdentity tenant m.sessionId id
      · subst hkey
        simp at h
      · simpa [hkey] using h
    · exact h
  · exact h

/-! ### The operation index -/

/-- The RPC is an admitted `ExecutePlan` that names the operation and is routed to `addr`. -/
def Sets (gw : Gateway MemorySig) (env : Env) (rpc : Rpc) (s : MemoryStore.State)
    (opId addr : String) : Prop :=
  opId ≠ "" ∧ ∃ id tenant md m, admission gw env rpc.metadata = .ok (id, tenant) ∧
    rpc = .request md (.executePlan m) ∧ m.body.operationId = some opId ∧
    (routeOf gw.router.tenants env rpc id tenant s).addr = some addr

/-- The RPC is an admitted `ReleaseExecute` of the operation that the backend it is routed to
answers Ok. -/
def Clears (gw : Gateway MemorySig) (env : Env) (rpc : Rpc) (s : MemoryStore.State)
    (opId : String) : Prop :=
  opId ≠ "" ∧ ∃ id tenant md m addr, admission gw env rpc.metadata = .ok (id, tenant) ∧
    rpc = .request md (.releaseExecute m) ∧ m.body.operationId = opId ∧
    (routeOf gw.router.tenants env rpc id tenant s).addr = some addr ∧
    answeredOk env addr (.releaseExecute (m.stamp id)) = true

/-- What a transition does to the operation index: nothing, one binding, or one removal. -/
theorem transition_ops_cases (gw : Gateway MemorySig) (env : Env) (rpc : Rpc)
    (s : MemoryStore.State) :
    (transition gw env rpc s).next.ops = s.ops ∨
    (∃ opId addr, Sets gw env rpc s opId addr ∧
      (transition gw env rpc s).next.ops = Function.update s.ops opId (some addr)) ∨
    ∃ opId, Clears gw env rpc s opId ∧
      (transition gw env rpc s).next.ops = Function.update s.ops opId none := by
  unfold transition
  cases hadm : admission gw env rpc.metadata with
  | error status => exact .inl rfl
  | ok p =>
    obtain ⟨id, tenant⟩ := p
    -- Routing does not touch the index, so what is settled after it decides.
    have hops := routeOf_ops gw.router.tenants env rpc id tenant s
    simp only
    cases haddr : (routeOf gw.router.tenants env rpc id tenant s).addr with
    | none => exact .inl hops
    | some addr =>
      have hcases := settle_ops_cases env rpc id tenant addr
        (routeOf gw.router.tenants env rpc id tenant s).tables
      rw [hops] at hcases
      rcases hcases with
        hsame | ⟨md, m, opId, hrpc, hop, hne, hset⟩ | ⟨md, m, hrpc, hne, hok, hclear⟩
      · exact .inl hsame
      · exact .inr (.inl ⟨opId, addr, ⟨hne, id, tenant, md, m, hadm, hrpc, hop, haddr⟩, hset⟩)
      · exact .inr (.inr ⟨m.body.operationId,
          ⟨hne, id, tenant, md, m, addr, hadm, hrpc, rfl, haddr, hok⟩, hclear⟩)

/-- What a transition does to one entry: nothing, unless it sets or clears that entry. -/
theorem transition_op_cases (gw : Gateway MemorySig) (env : Env) (rpc : Rpc)
    (s : MemoryStore.State) (opId : String) :
    (transition gw env rpc s).next.ops opId = s.ops opId ∨
      (∃ addr, Sets gw env rpc s opId addr) ∨ Clears gw env rpc s opId := by
  rcases transition_ops_cases gw env rpc s with
    hsame | ⟨op, addr, hsets, hops⟩ | ⟨op, hclears, hops⟩
  · exact .inl (congrFun hsame opId)
  · by_cases hop : opId = op
    · subst hop
      exact .inr (.inl ⟨addr, hsets⟩)
    · rw [hops]
      exact .inl (Function.update_of_ne hop _ _)
  · by_cases hop : opId = op
    · subst hop
      exact .inr (.inr hclears)
    · rw [hops]
      exact .inl (Function.update_of_ne hop _ _)

/-- An `ExecutePlan` that names the operation binds it. -/
theorem transition_ops_of_sets {opId addr : String} (h : Sets gw env rpc s opId addr) :
    (transition gw env rpc s).next.ops = Function.update s.ops opId (some addr) := by
  obtain ⟨hne, id, tenant, md, m, hadm, hrpc, hop, haddr⟩ := h
  have hops := routeOf_ops gw.router.tenants env rpc id tenant s
  have hempty : (opId == "") = false := by simpa using hne
  unfold transition
  rw [hadm]
  simp only [haddr]
  -- `settle` acts on the tables after routing, whose index is that of `s`.
  rw [← hops]
  subst hrpc
  simp [settle, hop, hempty]

/-- A `ReleaseExecute` of the operation that is answered Ok removes it. -/
theorem transition_ops_of_clears {opId : String} (h : Clears gw env rpc s opId) :
    (transition gw env rpc s).next.ops = Function.update s.ops opId none := by
  obtain ⟨hne, id, tenant, md, m, addr, hadm, hrpc, hop, haddr, hok⟩ := h
  have hops := routeOf_ops gw.router.tenants env rpc id tenant s
  unfold transition
  rw [hadm]
  simp only [haddr]
  rw [← hops]
  subst hrpc
  simp [settle, hop, hok, hne]

/-! ### Picks and contacts -/

/-- An admitted caller's RPC picks what its routing picks. -/
theorem transition_picked {id : Identity} {tenant : String}
    (hadm : admission gw env rpc.metadata = .ok (id, tenant)) :
    (transition gw env rpc s).picked = (routeOf gw.router.tenants env rpc id tenant s).picked := by
  unfold transition
  rw [hadm]
  simp only
  split <;> rfl

/-- A backend is contacted for an admitted caller, at the address the RPC is routed to. -/
theorem contact_routed (hstore : gw.router.store = MemoryStore.store) {addr : String}
    (h : addr ∈ contacts (effects (runRpc gw MemoryStore.apply env rpc s).trace)) :
    ∃ id tenant, admission gw env rpc.metadata = .ok (id, tenant) ∧
      (routeOf gw.router.tenants env rpc id tenant s).addr = some addr ∧
      (env.channel addr).isOk = true := by
  rw [(runRpc_transition env s hstore rpc).2.1, Option.mem_toList] at h
  unfold transition at h
  cases hadm : admission gw env rpc.metadata with
  | error status =>
    rw [hadm] at h
    cases h
  | ok p =>
    obtain ⟨id, tenant⟩ := p
    rw [hadm] at h
    simp only at h
    cases haddr : (routeOf gw.router.tenants env rpc id tenant s).addr with
    | none =>
      rw [haddr] at h
      cases h
    | some a =>
      rw [haddr] at h
      -- A contact needs a channel.
      have hcontact : (if (env.channel a).isOk then some a else none) = some addr := h
      cases hchannel : (env.channel a).isOk with
      | false =>
        rw [hchannel] at hcontact
        cases hcontact
      | true =>
        rw [hchannel] at hcontact
        obtain rfl : a = addr := Option.some.inj hcontact
        exact ⟨id, tenant, rfl, haddr, hchannel⟩

/-- A backend that the RPC of an admitted caller is routed to, and that can be dialed, is
contacted. -/
theorem contact_of_routed (hstore : gw.router.store = MemoryStore.store) {id : Identity}
    {tenant addr : String} (hadm : admission gw env rpc.metadata = .ok (id, tenant))
    (haddr : (routeOf gw.router.tenants env rpc id tenant s).addr = some addr)
    (hchannel : (env.channel addr).isOk = true) :
    addr ∈ contacts (effects (runRpc gw MemoryStore.apply env rpc s).trace) := by
  rw [(runRpc_transition env s hstore rpc).2.1, Option.mem_toList]
  unfold transition
  rw [hadm]
  simp only [haddr, hchannel, if_true]

/-- An RPC that names a known operation is routed to its backend. -/
theorem routeOf_of_op {r : TenantRouter} {id : Identity} {tenant opId b : String}
    (hop : opOf rpc = some opId) (hne : opId ≠ "") (hb : s.ops opId = some b) :
    routeOf r env rpc id tenant s = ⟨some b, s, []⟩ := by
  obtain ⟨sessionId, hsession⟩ : ∃ sessionId, sessionOf rpc = some sessionId := by
    cases rpc with
    | request md req => exact ⟨_, rfl⟩
    | addArtifacts md inbound => cases hop
  have hempty : (opId == "") = false := by simpa using hne
  unfold routeOf
  rw [hsession, hop]
  simp only [routeByOp, hempty, Bool.false_eq_true, if_false, hb]

/-! ### The session table -/

/-- The RPC is admitted, names the session of `key`, and is routed by the session table: it names
no operation, or one that is not known. -/
def BySession (gw : Gateway MemorySig) (env : Env) (rpc : Rpc) (s : MemoryStore.State)
    (key : SessionKey) : Prop :=
  ∃ id tenant sessionId, admission gw env rpc.metadata = .ok (id, tenant) ∧
    sessionOf rpc = some sessionId ∧ key = keyFromIdentity tenant sessionId id ∧
    ∀ opId, opOf rpc = some opId → opId = "" ∨ s.ops opId = none

/-- The RPC finds no entry for its session and enters the address that its pool picks. -/
def Binds (gw : Gateway MemorySig) (env : Env) (rpc : Rpc) (s : MemoryStore.State)
    (key : SessionKey) (addr : String) : Prop :=
  BySession gw env rpc s key ∧ key.isZero = false ∧ s.sessions key = none ∧
    ∃ pool, gw.router.tenants.poolFor key.tenant = .ok (some pool) ∧ env.pick pool = some addr

/-- The RPC is an admitted `ReleaseSession` of the session that the backend it is routed to
answers Ok. -/
def Releases (gw : Gateway MemorySig) (env : Env) (rpc : Rpc) (s : MemoryStore.State)
    (key : SessionKey) : Prop :=
  ∃ id tenant md m addr, admission gw env rpc.metadata = .ok (id, tenant) ∧
    rpc = .request md (.releaseSession m) ∧ key = keyFromIdentity tenant m.sessionId id ∧
    (routeOf gw.router.tenants env rpc id tenant s).addr = some addr ∧
    answeredOk env addr (.releaseSession (m.stamp id)) = true

/-- Only a `ReleaseSession` releases a session. -/
theorem not_releases {key : SessionKey} (hrpc : ∀ md m, rpc ≠ .request md (.releaseSession m)) :
    ¬ Releases gw env rpc s key := by
  rintro ⟨_, _, md, m, _, _, heq, -⟩
  exact hrpc md m heq

/-- The releases of an admitted caller. -/
theorem releases_iff {key : SessionKey} {id : Identity} {tenant : String}
    (hadm : admission gw env rpc.metadata = .ok (id, tenant)) :
    Releases gw env rpc s key ↔ ∃ md m addr, rpc = .request md (.releaseSession m) ∧
      key = keyFromIdentity tenant m.sessionId id ∧
      (routeOf gw.router.tenants env rpc id tenant s).addr = some addr ∧
      answeredOk env addr (.releaseSession (m.stamp id)) = true := by
  constructor
  · rintro ⟨id', tenant', md, m, addr, hadm', hrelease⟩
    obtain ⟨rfl, rfl⟩ := Prod.mk.inj (Except.ok.inj (hadm.symm.trans hadm'))
    exact ⟨md, m, addr, hrelease⟩
  · rintro ⟨md, m, addr, hrelease⟩
    exact ⟨id, tenant, md, m, addr, hadm, hrelease⟩

/-- Whether an RPC that is sent to `addr` releases the session: it is the `ReleaseSession` of it
and answered Ok there, or it is none of a session with such an answer. -/
theorem releases_cases (key : SessionKey) {id : Identity} {tenant addr : String}
    (hadm : admission gw env rpc.metadata = .ok (id, tenant))
    (haddr : (routeOf gw.router.tenants env rpc id tenant s).addr = some addr) :
    (Releases gw env rpc s key ∧ ∃ md m, rpc = .request md (.releaseSession m) ∧
        key = keyFromIdentity tenant m.sessionId id ∧
        answeredOk env addr (.releaseSession (m.stamp id)) = true) ∨
      (¬ Releases gw env rpc s key ∧ ∀ md m, rpc = .request md (.releaseSession m) →
        answeredOk env addr (.releaseSession (m.stamp id)) = true →
          key ≠ keyFromIdentity tenant m.sessionId id) := by
  by_cases hrel : Releases gw env rpc s key
  · obtain ⟨md, m, addr', hrpc, hkey, haddr', hok⟩ := (releases_iff hadm).mp hrel
    obtain rfl := Option.some.inj (haddr.symm.trans haddr')
    exact .inl ⟨hrel, md, m, hrpc, hkey, hok⟩
  · refine .inr ⟨hrel, ?_⟩
    intro md m hrpc hok hkey
    exact hrel ((releases_iff hadm).mpr ⟨md, m, addr, hrpc, hkey, haddr, hok⟩)

/-- An RPC that is routed by the session table. -/
theorem routeOf_of_bySession {key : SessionKey} (h : BySession gw env rpc s key) {id : Identity}
    {tenant : String} (hadm : admission gw env rpc.metadata = .ok (id, tenant)) :
    routeOf gw.router.tenants env rpc id tenant s = routeBySession gw.router.tenants env key s := by
  obtain ⟨id', tenant', sessionId, hadm', hsession, rfl, hop⟩ := h
  obtain ⟨rfl, rfl⟩ := Prod.mk.inj (Except.ok.inj (hadm.symm.trans hadm'))
  unfold routeOf
  rw [hsession]
  cases hopOf : opOf rpc with
  | none => rfl
  | some opId =>
    have hmiss : (if opId == "" then none else s.ops opId) = none := by
      rcases hop opId hopOf with rfl | hnone
      · rfl
      · rw [hnone]
        exact ite_self _
    simp only [routeByOp, hmiss]

/-- An admitted RPC that is routed in another way leaves the tables alone. -/
theorem routeOf_tables_cases {id : Identity} {tenant : String}
    (hadm : admission gw env rpc.metadata = .ok (id, tenant)) :
    (∃ key, BySession gw env rpc s key) ∨
      (routeOf gw.router.tenants env rpc id tenant s).tables = s := by
  cases hsession : sessionOf rpc with
  | none =>
    right
    unfold routeOf
    rw [hsession]
  | some sessionId =>
    by_cases hop : ∀ opId, opOf rpc = some opId → opId = "" ∨ s.ops opId = none
    · exact .inl ⟨_, id, tenant, sessionId, hadm, hsession, rfl, hop⟩
    · right
      push Not at hop
      obtain ⟨opId, hopOf, hne, hsome⟩ := hop
      obtain ⟨b, hb⟩ := Option.ne_none_iff_exists'.mp hsome
      rw [routeOf_of_op hopOf hne hb]

/-- An RPC that binds its session goes to the address that it has picked. -/
theorem routeOf_of_binds {key : SessionKey} {addr : String} (h : Binds gw env rpc s key addr)
    {id : Identity} {tenant : String} (hadm : admission gw env rpc.metadata = .ok (id, tenant)) :
    ∃ pool, gw.router.tenants.poolFor key.tenant = .ok (some pool) ∧
      routeOf gw.router.tenants env rpc id tenant s =
        ⟨some addr, { s with sessions := Function.update s.sessions key (some addr) },
          [(pool, addr)]⟩ := by
  obtain ⟨hby, hzero, hnone, pool, hpool, hpick⟩ := h
  refine ⟨pool, hpool, ?_⟩
  rw [routeOf_of_bySession hby hadm]
  simp [routeBySession, sessionRoute, hpool, hzero, hnone, hpick, picks, Except.toOption]

/-- What routing does to one entry: it binds it, or leaves it alone. -/
theorem routeOf_session_cases {id : Identity} {tenant : String}
    (hadm : admission gw env rpc.metadata = .ok (id, tenant)) (key : SessionKey) :
    (∃ addr, Binds gw env rpc s key addr ∧
      (routeOf gw.router.tenants env rpc id tenant s).tables.sessions key = some addr) ∨
    (∀ addr, ¬ Binds gw env rpc s key addr) ∧
      (routeOf gw.router.tenants env rpc id tenant s).tables.sessions key = s.sessions key := by
  by_cases hbinds : ∃ addr, Binds gw env rpc s key addr
  · obtain ⟨addr, hbind⟩ := hbinds
    obtain ⟨pool, -, hroute⟩ := routeOf_of_binds hbind hadm
    refine .inl ⟨addr, hbind, ?_⟩
    rw [hroute]
    exact Function.update_self _ _ _
  · refine .inr ⟨fun addr h => hbinds ⟨addr, h⟩, ?_⟩
    rcases routeOf_tables_cases hadm with ⟨key', hby⟩ | htables
    · rw [routeOf_of_bySession hby hadm]
      rcases routeBySession_cases gw.router.tenants env key' s with
        h | ⟨pool, addr, hpool, ⟨-, h⟩ | ⟨-, h⟩ | ⟨⟨hzero, hnone, hpick⟩, h⟩⟩
      · rw [h]
      · rw [h]
      · rw [h]
      · -- A binding, so of another session.
        have hne : key ≠ key' := by
          rintro rfl
          exact hbinds ⟨addr, hby, hzero, hnone, pool, hpool, hpick⟩
        rw [h]
        exact Function.update_of_ne hne _ _
    · rw [htables]

/-- What an RPC does to one entry once it has an address: a release removes it. -/
theorem settle_session {id : Identity} {tenant addr : String}
    (hadm : admission gw env rpc.metadata = .ok (id, tenant))
    (haddr : (routeOf gw.router.tenants env rpc id tenant s).addr = some addr)
    (s' : MemoryStore.State) (key : SessionKey) :
    Releases gw env rpc s key ∧ (settle env rpc id tenant addr s').sessions key = none ∨
      ¬ Releases gw env rpc s key ∧
        (settle env rpc id tenant addr s').sessions key = s'.sessions key := by
  rcases releases_cases key hadm haddr with ⟨hrel, md, m, rfl, rfl, hok⟩ | ⟨hrel, hother⟩
  · refine .inl ⟨hrel, ?_⟩
    simp [settle, hok]
  · refine .inr ⟨hrel, ?_⟩
    unfold settle
    split
    · split
      · split <;> rfl
      · rfl
    · split <;> rfl
    · -- Another session, or the backend did not answer Ok.
      rename_i md m
      split
      · rename_i hok
        exact Function.update_of_ne (hother md m rfl hok) _ _
      · rfl
    · rfl

/-- What a transition does to one session's entry: a release removes it, a binding enters it, and
otherwise it stays. -/
theorem transition_session_cases (gw : Gateway MemorySig) (env : Env) (rpc : Rpc)
    (s : MemoryStore.State) (key : SessionKey) :
    Releases gw env rpc s key ∧ (transition gw env rpc s).next.sessions key = none ∨
    ¬ Releases gw env rpc s key ∧
      ((∃ addr, Binds gw env rpc s key addr ∧
          (transition gw env rpc s).next.sessions key = some addr) ∨
        (∀ addr, ¬ Binds gw env rpc s key addr) ∧
          (transition gw env rpc s).next.sessions key = s.sessions key) := by
  unfold transition
  cases hadm : admission gw env rpc.metadata with
  | error status =>
    -- Not admitted: no RPC of anyone's session.
    refine .inr ⟨?_, .inr ⟨?_, rfl⟩⟩
    · rintro ⟨id, tenant, md, m, addr, hadm', -⟩
      cases hadm.symm.trans hadm'
    · rintro addr ⟨⟨id, tenant, sessionId, hadm', -⟩, -⟩
      cases hadm.symm.trans hadm'
  | ok p =>
    obtain ⟨id, tenant⟩ := p
    simp only
    have hroute := routeOf_session_cases (s := s) hadm key
    cases haddr : (routeOf gw.router.tenants env rpc id tenant s).addr with
    | none =>
      refine .inr ⟨fun hrel => ?_, hroute⟩
      obtain ⟨md, m, addr, -, -, haddr', -⟩ := (releases_iff hadm).mp hrel
      cases haddr.symm.trans haddr'
    | some addr =>
      rcases settle_session hadm haddr
        (routeOf gw.router.tenants env rpc id tenant s).tables key with
        ⟨hrel, hnone⟩ | ⟨hrel, hsame⟩
      · exact .inl ⟨hrel, hnone⟩
      · refine .inr ⟨hrel, ?_⟩
        rw [hsame]
        exact hroute

end

end SparkGateway.Proofs.Handler
