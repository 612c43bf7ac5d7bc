import SparkGateway.Lib.Restrict
import SparkGateway.Proofs.Handler.TableOwnership
import SparkGateway.Proofs.Pool.Balance
import SparkGateway.Proofs.Pool.K8sTracking
import SparkGateway.Proofs.Startup.Topology

/-!
# `SparkGateway.Proofs.Handler.ContactOrigin`: where the addresses of the backends come from

Every address that a handler dials comes from a pool, but it can take a way through the tables and
through other handlers. `Provenance` is the invariant of a run that follows it: what the pools hold,
what the tables hold, and what the events so far have returned.

`contacts_configured` is the result for a process that `main` has built from a configuration: a
handler dials and calls only addresses that the configuration names for the tenant of its caller.
The one exception is an RPC that is routed by an operation: its address is one that the
configuration names for the tenant of an `ExecutePlan` which named the same operation.

A static list names its addresses. A Kubernetes service names the addresses that were ready in one
of the objects which the API server sent to the watcher of that service, so the services of two
tenants are told apart by their own watchers.
-/

set_option autoImplicit false

namespace SparkGateway.Proofs.Handler

open SparkGateway.Lib
open SparkGateway.Spec
open SparkGateway.Proofs.Pool
open SparkGateway.Proofs.Startup

/-! ### What a pool offers -/

/-- As long as its state satisfies `Inv`, the pool returns only addresses with `Q`, and nothing
that it does changes that. -/
structure Offers (m : PoolModel) (Q : String → Prop) (Inv : m.State → Prop) : Prop where
  listed : ∀ s, Inv s → ∀ a ∈ m.allHealthy s, Q a
  picked : ∀ s a, Inv s → (m.pick s).1 = some a → Q a
  pick : ∀ s, Inv s → Inv (m.pick s).2
  moves : ∀ s s', Inv s → m.moves s s' → Inv s'

/-- A static pool offers its backends. -/
theorem static_offers (Q : String → Prop) :
    Offers .static Q fun pool : StaticPool => ∀ a ∈ pool.backends, Q a where
  listed _ h := h
  picked _ a h hpick := h a (List.mem_of_getElem? hpick)
  pick _ h := h
  moves _ _ _ hmove := hmove.elim

/-- The watcher's stream has the object. -/
def Delivered (stream : WatcherItem → Prop) (ep : Endpoints) : Prop :=
  stream (.ok (.apply ep)) ∨ stream (.ok (.initApply ep))

/-- The address is that of a ready pod in a subset of the object that serves the port. -/
def ReadyAt (ep : Endpoints) (port : UInt16) (addr : String) : Prop :=
  ∃ subsets ∈ ep.subsets, ∃ subset ∈ subsets,
    (∃ ports ∈ subset.ports, ∃ p ∈ ports, p.port = (port.toNat : ℤ)) ∧
      ∃ pods ∈ subset.addresses, ∃ pod ∈ pods, addr = pod.ip ++ ":" ++ toString port.toNat

/-- A subset serves the port if one of its ports is that. -/
theorem portMatches_iff (subset : EndpointSubset) (port : UInt16) :
    subset.portMatches port = true ↔
      ∃ ports ∈ subset.ports, ∃ p ∈ ports, p.port = (port.toNat : ℤ) := by
  unfold EndpointSubset.portMatches
  cases subset.ports <;> simp

/-- `extract_addresses` returns the addresses of the ready pods at the port, and no others. -/
theorem mem_extractAddresses_iff {ep : Endpoints} {port : UInt16} {addr : String} :
    addr ∈ extractAddresses ep port ↔ ReadyAt ep port addr := by
  unfold extractAddresses ReadyAt
  cases ep.subsets with
  | none => simp
  | some subsets =>
    simp only [List.mem_flatMap, Option.mem_some_iff, exists_eq_left']
    refine exists_congr fun subset => and_congr_right fun _ => ?_
    rw [← portMatches_iff]
    cases subset.portMatches port with
    | false => simp
    | true =>
      cases subset.addresses with
      | none => simp
      | some pods => simp [@eq_comm _ addr]

/-- The pool holds the addresses of an object that its watcher's stream has, or none. -/
def HoldsDelivered (stream : WatcherItem → Prop) (port : UInt16) (pool : K8sPool) : Prop :=
  ∃ seen, pool.backends = addressesOf port seen ∧ ∀ ep ∈ seen, Delivered stream ep

/-- Every item of the stream keeps that. -/
theorem HoldsDelivered.onEvent {stream : WatcherItem → Prop} {port : UInt16} {pool : K8sPool}
    (h : HoldsDelivered stream port pool) {item : WatcherItem} (hitem : stream item) :
    HoldsDelivered stream port (pool.onEvent port item) := by
  obtain ⟨seen, hbackends, hseen⟩ := h
  refine ⟨see seen item, onEvent_backends port hbackends item, ?_⟩
  rcases item with error | event
  · exact hseen
  · cases event with
    | apply ep =>
      rintro _ ⟨⟩
      exact .inl hitem
    | initApply ep =>
      rintro _ ⟨⟩
      exact .inr hitem
    | delete ep => exact fun ep' hep' => nomatch hep'
    | init => exact hseen
    | initDone => exact hseen

/-- What the pool holds is ready in an object of the stream. -/
theorem HoldsDelivered.ready {stream : WatcherItem → Prop} {port : UInt16} {pool : K8sPool}
    (h : HoldsDelivered stream port pool) {addr : String} (haddr : addr ∈ pool.backends) :
    ∃ ep, Delivered stream ep ∧ ReadyAt ep port addr := by
  obtain ⟨seen, hbackends, hseen⟩ := h
  rw [hbackends] at haddr
  cases seen with
  | none => cases haddr
  | some ep => exact ⟨ep, hseen ep rfl, mem_extractAddresses_iff.mp haddr⟩

/-- A pick does not change what the pool holds. -/
theorem HoldsDelivered.pick {stream : WatcherItem → Prop} {port : UInt16} {pool : K8sPool}
    (h : HoldsDelivered stream port pool) : HoldsDelivered stream port pool.pick.2 := by
  rw [k8s_pick_eq]
  split
  · exact h
  · exact h

/-- A pick is one of the addresses of the pool. -/
theorem mem_of_k8s_pick {pool : K8sPool} {addr : String} (h : pool.pick.1 = some addr) :
    addr ∈ pool.backends := by
  rw [k8s_pick_eq] at h
  exact List.mem_of_getElem? h

/-- A Kubernetes pool offers the addresses that its own watcher was told of. -/
theorem k8s_offers (stream : WatcherItem → Prop) (port : UInt16) :
    Offers (.k8s stream port) (fun addr => ∃ ep, Delivered stream ep ∧ ReadyAt ep port addr)
      (HoldsDelivered stream port) where
  listed _ h _ ha := h.ready ha
  picked _ _ h hpick := h.ready (mem_of_k8s_pick hpick)
  pick _ h := h.pick
  moves _ _ h := by
    rintro ⟨item, hitem, rfl⟩
    exact h.onEvent hitem

/-- A pool with health checks offers what its inner pool offers. -/
theorem healthAware_offers {cfg : HealthCheckConfig} {inner : PoolModel} {Q : String → Prop}
    {Inv : inner.State → Prop} (h : Offers inner Q Inv) :
    Offers (.healthAware cfg inner) Q fun s : HealthAwarePool × inner.State => Inv s.2 where
  listed s hs a ha := h.listed s.2 hs a (List.mem_of_mem_filter ha)
  picked s a hs hpick := by
    change (s.1.pick (inner.allHealthy s.2)).1 = some a at hpick
    unfold HealthAwarePool.pick at hpick
    dsimp only at hpick
    split at hpick
    · cases hpick
    · exact h.listed s.2 hs a (List.mem_of_mem_filter (List.mem_of_getElem? hpick))
  pick _ hs := hs
  moves s s' hs hmove := by
    rcases hmove with ⟨round, rfl⟩ | ⟨q, hq, rfl⟩
    · exact hs
    · exact h.moves s.2 q hs hq

/-- The addresses that a discovery source names: those of a static list, and those that are ready
in an object which the API server sent to the watcher of the service. -/
def Configured (spawn : SpawnWatcher) : BackendDiscovery → String → Prop
  | .static addresses, addr => addr ∈ addresses
  | .k8s ns serviceName port, addr => ∃ stream, spawn ns serviceName port = .ok stream ∧
      ∃ ep, Delivered stream ep ∧ ReadyAt ep port addr

/-- A pool offers what its discovery source names. -/
theorem builtFrom_offers {spawn : SpawnWatcher} {healthCheck : HealthCheckSettings}
    {d : BackendDiscovery} {pool : BuiltPool} (h : BuiltFrom spawn healthCheck d pool) :
    ∃ Inv, Offers pool.model (Configured spawn d) Inv ∧ Inv pool.state := by
  obtain ⟨observed, inner, hinner, rfl⟩ := h
  -- The plain pool first. The health check only leaves addresses out.
  have hplain : ∃ Inv, Offers inner.model (Configured spawn d) Inv ∧ Inv inner.state := by
    cases d with
    | static addresses =>
      by_cases hempty : addresses = []
      · simp [buildPoolFromDiscovery, StaticPool.new, hempty] at hinner
      · -- `StaticPool::new` keeps the list as it is.
        simp only [buildPoolFromDiscovery, StaticPool.new, dif_neg hempty] at hinner
        cases hinner
        exact ⟨_, static_offers _, fun a ha => ha⟩
    | k8s ns serviceName port =>
      cases hspawn : spawn ns serviceName port with
      | error e => simp [buildPoolFromDiscovery, hspawn] at hinner
      | ok stream =>
        simp only [buildPoolFromDiscovery, hspawn] at hinner
        cases hinner
        refine ⟨HoldsDelivered stream port, ?_, none, ?_, fun ep hep => absurd hep (by simp)⟩
        · have hnamed : Configured spawn (.k8s ns serviceName port) =
              fun addr => ∃ ep, Delivered stream ep ∧ ReadyAt ep port addr := by
            funext addr
            simp [Configured, hspawn]
          rw [hnamed]
          exact k8s_offers stream port
        · -- There is no backend before the first event.
          cases observed <;> rfl
  obtain ⟨Inv, hoffers, hstate⟩ := hplain
  cases henabled : healthCheck.enabled with
  | false =>
    rw [show wrapWithHealthcheck inner healthCheck = inner by simp [wrapWithHealthcheck, henabled]]
    exact ⟨Inv, hoffers, hstate⟩
  | true =>
    rw [show wrapWithHealthcheck inner healthCheck = ⟨.healthAware
      ⟨healthCheck.unhealthyThreshold, healthCheck.healthyThreshold⟩ inner.model,
      (HealthAwarePool.new, inner.state)⟩ by simp [wrapWithHealthcheck, henabled]]
    exact ⟨_, healthAware_offers hoffers, hstate⟩

/-! ### Where the addresses of a run come from -/

section
variable {ι : Type} [DecidableEq ι] {P : PoolId → PoolModel} {limits : LimiterConfig}
  {gw : Gateway MemorySig} {rpc : ι → Rpc} {Q : PoolId → String → Prop}
  {Inv : (pool : PoolId) → (P pool).State → Prop}

/-- The pool of the tenant offers the address. -/
def FromTenant (gw : Gateway MemorySig) (Q : PoolId → String → Prop) (tenant addr : String) :
    Prop :=
  ∃ pool, gw.router.tenants.poolFor tenant = .ok (some pool) ∧ Q pool addr

/-- The address was remembered by an `ExecutePlan` that named the operation, and is its tenant's. -/
def FromOp (gw : Gateway MemorySig) (rpc : ι → Rpc) (Q : PoolId → String → Prop)
    (t : List (ProcessRecord P ι)) (opId addr : String) : Prop :=
  ∃ j id tenant md m, Admitted gw (rpc j) (eventsOf j t) id tenant ∧
    rpc j = .request md (.executePlan m) ∧ m.body.operationId = some opId ∧
    FromTenant gw Q tenant addr

/-- What an operation's address came from is still in a longer run. -/
theorem FromOp.extend {t : List (ProcessRecord P ι)} {opId addr : String}
    (h : FromOp gw rpc Q t opId addr) (rec : ProcessRecord P ι) :
    FromOp gw rpc Q (t ++ [rec]) opId addr := by
  obtain ⟨j, id, tenant, md, m, hadm, hrest⟩ := h
  refine ⟨j, id, tenant, md, m, hadm.extend ?_, hrest⟩
  rw [eventsOf_append]
  exact List.prefix_append _ _

/-- An address that an event returned has a source. -/
def EventSourced (gw : Gateway MemorySig) (rpc : ι → Rpc) (Q : PoolId → String → Prop)
    (t : List (ProcessRecord P ι)) (e : HandlerEvent) : Prop :=
  (∀ pool addr, e = ⟨.inl (.inl (.pick pool)), some addr⟩ → Q pool addr) ∧
    (∀ key addr, ResolvedTo key addr e → FromTenant gw Q key.tenant addr) ∧
    (∀ opId addr, e = ⟨storeCmd (.lookupOp opId), some addr⟩ → FromOp gw rpc Q t opId addr)

/-- Every address in the state and in the events of a run has a source. -/
structure Provenance (gw : Gateway MemorySig) (rpc : ι → Rpc) (Q : PoolId → String → Prop)
    (Inv : (pool : PoolId) → (P pool).State → Prop) (t : List (ProcessRecord P ι))
    (s : ProcessState P) : Prop where
  pools : ∀ pool, Inv pool (s.pools pool)
  sessions : ∀ key addr, s.store.sessions key = some addr → FromTenant gw Q key.tenant addr
  ops : ∀ opId addr, s.store.ops opId = some addr → FromOp gw rpc Q t opId addr
  events : ∀ i e, (i, e) ∈ actions t → EventSourced gw rpc Q t e

/-- The events of a handler are among the actions of the run. -/
theorem mem_actions {t : List (ProcessRecord P ι)} {i : ι} {e : HandlerEvent}
    (h : e ∈ eventsOf i t) : (i, e) ∈ actions t := by
  obtain ⟨rec, hrec, hact⟩ := mem_eventsOf.mp h
  exact List.mem_filterMap.mpr ⟨rec, hrec, hact⟩

/-- An address that a caller's routing obtained. -/
theorem Provenance.obtained {t : List (ProcessRecord P ι)} {s : ProcessState P}
    (h : Provenance gw rpc Q Inv t s) {i : ι} {id : Identity} {tenant addr : String}
    (hobt : ObtainedFor gw (rpc i) (eventsOf i t) id tenant addr) :
    FromTenant gw Q tenant addr ∨
      ∃ opId, opOf (rpc i) = some opId ∧ FromOp gw rpc Q t opId addr := by
  obtain ⟨key, hkey, hobt⟩ := hobt
  obtain rfl := keyOf_tenant hkey
  cases hobt with
  | @op opId hop hfound =>
    exact .inr ⟨opId, hop, (h.events i _ (mem_actions hfound)).2.2 opId addr rfl⟩
  | session hmem hres => exact .inl ((h.events i _ (mem_actions hmem)).2.1 key addr hres)
  | @picked pool _ hpool hpick =>
    exact .inl ⟨pool, hpool, (h.events i _ (mem_actions hpick)).1 pool addr rfl⟩

/-! ### One step -/

section
variable {c c' : Config (GatewaySig MemorySig) (ProcessState P) ι (Except Status Response)}
  {rec : ProcessRecord P ι} {t : List (ProcessRecord P ι)}

/-- The pools keep their invariant. -/
theorem pools_step (hoffers : ∀ pool, Offers (P pool) (Q pool) (Inv pool))
    (hstep : Step (processSemantics P limits) c rec c')
    (h : ∀ pool, Inv pool (c.shared.pools pool)) (pool : PoolId) :
    Inv pool (c'.shared.pools pool) := by
  -- Only one pool changes, by a pick or by its own task.
  have hupdate : ∀ (pool' : PoolId) (q : (P pool').State), Inv pool' q →
      Inv pool (Function.update c.shared.pools pool' q pool) := by
    intro pool' q hq
    by_cases hne : pool = pool'
    · subst hne
      rw [Function.update_self]
      exact hq
    · rw [Function.update_of_ne hne]
      exact h pool
  cases hstep with
  | env henv =>
    obtain ⟨pool', q, hmove, rfl⟩ := henv
    exact hupdate pool' q ((hoffers pool').moves _ _ (h pool') hmove)
  | @cmd i cmd k r s' hth hcmd =>
    rcases cmd with (cmd | cmd) | cmd
    · obtain ⟨pool'⟩ := cmd
      cases hcmd
      exact hupdate pool' _ ((hoffers pool').pick _ (h pool'))
    · cases hcmd
      exact h pool
    · cases cmd with
      | check tenant user =>
        obtain ⟨now, -, -, hcheck⟩ := hcmd
        cases hcheck
        exact h pool
      | _ =>
        obtain rfl : s' = c.shared := hcmd
        exact h pool

/-- What a step leaves in the session table has a source. -/
theorem sessions_step (h : Provenance gw rpc Q Inv t c.shared)
    (hstep : Step (processSemantics P limits) c rec c')
    (hcontract : ∀ i e, rec.actor = some (i, e) → Contract gw (rpc i) (eventsOf i t) e.1)
    (key : SessionKey) (addr : String) (hnew : c'.shared.store.sessions key = some addr) :
    FromTenant gw Q key.tenant addr := by
  rw [← hstep.shared.2] at hnew
  rcases (process_accesses hstep).session_cases key with
    hsame | ⟨i, chosen, reply, hact, -, hpost⟩ | ⟨i, -, -, hpost⟩
  · rw [hsame, hstep.shared.1] at hnew
    exact h.sessions key addr hnew
  · obtain ⟨id, tenant, -, hkey, -, pool, hpool, hpick⟩ := own_of_storeCmd (hcontract i _ hact)
    obtain rfl := keyOf_tenant hkey
    obtain rfl : chosen = addr := Option.some.inj (hpost.symm.trans hnew)
    exact ⟨pool, hpool, (h.events i _ (mem_actions hpick)).1 pool chosen rfl⟩
  · rw [hpost] at hnew
    cases hnew

/-- What a step leaves in the operation index has a source. -/
theorem ops_step (h : Provenance gw rpc Q Inv t c.shared)
    (hstep : Step (processSemantics P limits) c rec c')
    (hcontract : ∀ i e, rec.actor = some (i, e) → Contract gw (rpc i) (eventsOf i t) e.1)
    (opId addr : String) (hnew : c'.shared.store.ops opId = some addr) :
    FromOp gw rpc Q (t ++ [rec]) opId addr := by
  rw [← hstep.shared.2] at hnew
  rcases (process_accesses hstep).op_cases opId with hsame | ⟨i, chosen, hact, hpost⟩ |
    ⟨i, -, hpost⟩
  · rw [hsame, hstep.shared.1] at hnew
    exact (h.ops opId addr hnew).extend rec
  · obtain ⟨id, tenant, hadm, ⟨md, m, hrpc, hop, -⟩, hobt⟩ :=
      own_of_storeCmd (hcontract i _ hact)
    obtain rfl : chosen = addr := Option.some.inj (hpost.symm.trans hnew)
    have hfrom : FromTenant gw Q tenant chosen := by
      rcases h.obtained hobt with hfrom | ⟨opId', hopOf, -⟩
      · exact hfrom
      · -- An `ExecutePlan` is routed by its session.
        rw [hrpc] at hopOf
        cases hopOf
    exact FromOp.extend ⟨i, id, tenant, md, m, hadm, hrpc, hop, hfrom⟩ rec
  · rw [hpost] at hnew
    cases hnew

/-- The addresses that a step returns have a source. -/
theorem event_step (hoffers : ∀ pool, Offers (P pool) (Q pool) (Inv pool))
    (h : Provenance gw rpc Q Inv t c.shared) (hstep : Step (processSemantics P limits) c rec c')
    (hcontract : ∀ i e, rec.actor = some (i, e) → Contract gw (rpc i) (eventsOf i t) e.1)
    {i : ι} {e : HandlerEvent} (hact : rec.actor = some (i, e)) :
    EventSourced gw rpc Q (t ++ [rec]) e := by
  refine ⟨?_, ?_, ?_⟩
  · rintro pool addr rfl
    have hcmd : rec.pre.pick pool = (some addr, rec.post) := hstep.cmd_of hact
    have hpick : ((P pool).pick (rec.pre.pools pool)).1 = some addr := congrArg Prod.fst hcmd
    exact (hoffers pool).picked _ addr (hstep.shared.1 ▸ h.pools pool) hpick
  · intro key addr hres
    have hbound := (resolves_bound hstep ⟨i, e, hact, hres⟩).1
    exact sessions_step h hstep hcontract key addr (hstep.shared.2 ▸ hbound)
  · rintro opId addr rfl
    have hcmd : rec.pre.access (.lookupOp opId) = (some addr, rec.post) := hstep.cmd_of hact
    have hfound : rec.pre.store.ops opId = some addr := congrArg Prod.fst hcmd
    rw [hstep.shared.1] at hfound
    exact (h.ops opId addr hfound).extend rec

/-- The invariant is kept by every step. -/
theorem Provenance.step (hoffers : ∀ pool, Offers (P pool) (Q pool) (Inv pool))
    (h : Provenance gw rpc Q Inv t c.shared) (hstep : Step (processSemantics P limits) c rec c')
    (hcontract : ∀ i e, rec.actor = some (i, e) → Contract gw (rpc i) (eventsOf i t) e.1) :
    Provenance gw rpc Q Inv (t ++ [rec]) c'.shared where
  pools := pools_step hoffers hstep h.pools
  sessions := sessions_step h hstep hcontract
  ops := ops_step h hstep hcontract
  events i e he := by
    rw [actions_append, List.mem_append] at he
    rcases he with hold | hlast
    · obtain ⟨hpick, hres, hop⟩ := h.events i e hold
      exact ⟨hpick, hres, fun opId addr heq => (hop opId addr heq).extend rec⟩
    · obtain ⟨rec', hrec', hact⟩ := List.mem_filterMap.mp hlast
      obtain rfl := List.mem_singleton.mp hrec'
      exact event_step hoffers h hstep hcontract hact

end

/-! ### Whole runs -/

section
variable {s : ProcessState P} {t : List (ProcessRecord P ι)}
  {c : Config (GatewaySig MemorySig) (ProcessState P) ι (Except Status Response)}

/-- A run from empty tables. -/
theorem provenance_run (hstore : gw.router.store = MemoryStore.store)
    (hoffers : ∀ pool, Offers (P pool) (Q pool) (Inv pool)) (htables : s.store = MemoryStore.new)
    (hpools : ∀ pool, Inv pool (s.pools pool))
    (hrun : Run (processSemantics P limits) (process gw rpc s) t c) :
    Provenance gw rpc Q Inv t c.shared := by
  induction hrun with
  | nil =>
    show Provenance gw rpc Q Inv [] s
    refine ⟨hpools, fun key addr h => ?_, fun opId addr h => ?_, fun i e he => nomatch he⟩
    · rw [htables] at h
      cases h
    · rw [htables] at h
      cases h
  | snoc hrun hstep ih =>
    exact ih.step hoffers hstep fun i e hact => contract_of_run hstore (hrun.snoc hstep) hact

/-- The address that a command dials or sends to. -/
def contactOf : (GatewaySig MemorySig).Cmd → Option String
  | .inr (.channel addr) => some addr
  | .inr (.call addr _ _) => some addr
  | .inr (.addArtifacts addr _ _ _) => some addr
  | _ => none

/-- A contact is one of an admitted caller, at an address that its routing obtained. -/
theorem contact_obtained {rpc : Rpc} {es : List HandlerEvent} {cmd : (GatewaySig MemorySig).Cmd}
    (h : Contract gw rpc es cmd) {addr : String} (hcontact : contactOf cmd = some addr) :
    ∃ id tenant, Admitted gw rpc es id tenant ∧ ObtainedFor gw rpc es id tenant addr := by
  -- A contact is no audit event, so the contract leaves three cases.
  have hc : ∀ event, cmd ≠ .inr (.audit event) := by
    rintro event rfl
    cases hcontact
  rcases h.unaudited hc with h | ⟨id, tenant, -, rfl⟩ | ⟨id, tenant, hadm, hc⟩
  · rcases cmd with (cmd | cmd) | cmd
    · cases hcontact
    · cases hcontact
    · cases cmd with
      | channel | call | addArtifacts => exact h.elim
      | _ => cases hcontact
  · cases hcontact
  · -- An admitted caller's own command: the contract says where the address is from.
    refine ⟨id, tenant, hadm, ?_⟩
    rcases cmd with (cmd | cmd) | cmd
    · cases hcontact
    · cases hcontact
    · cases cmd with
      | channel addr' =>
        obtain rfl : addr' = addr := Option.some.inj hcontact
        exact hc
      | call addr' rid req =>
        obtain rfl : addr' = addr := Option.some.inj hcontact
        exact hc.1
      | addArtifacts addr' rid first rest =>
        obtain rfl : addr' = addr := Option.some.inj hcontact
        exact hc.1
      | _ => cases hcontact

end

end

/-! ### A process of a configuration -/

/-- The in-process store is the one that `affinity_store: memory` asks for. -/
theorem memoryStore_of_built {cfg : AffinityStoreConfig} {store : AffinityStore MemorySig}
    (h : buildAffinityStore cfg = .memory store) : store = MemoryStore.store := by
  cases cfg with
  | memory => exact (BuiltStore.memory.inj h).symm
  | redis settings => cases h

/-- **Every backend that is contacted is a configured one.** A process that was built from a
configuration with the in-process affinity store, any RPCs and any order of their steps: when a
handler dials or calls an address, its caller is admitted, and the address is one that the
configuration names for the caller's tenant, or the RPC is routed by an operation, and the address
is one that the configuration names for the tenant of an admitted `ExecutePlan` with that
operation. -/
theorem contacts_configured {ι : Type} [DecidableEq ι] {cfg : Spec.Config} {spawn : SpawnWatcher}
    {topology : Topology} (hbuild : buildTenantRouting cfg spawn = .ok topology)
    {store : AffinityStore MemorySig}
    (hstore : buildAffinityStore cfg.affinityStore = .memory store)
    {limits : LimiterConfig} {rpc : ι → Rpc}
    {before after : List (ProcessRecord (fun pool => (topology.pools pool).model) ι)}
    {rec : ProcessRecord (fun pool => (topology.pools pool).model) ι}
    {c : Lib.Config (GatewaySig MemorySig) (ProcessState fun pool => (topology.pools pool).model) ι
      (Except Status Response)}
    (hrun : Run (processSemantics _ limits)
      (process (buildGateway cfg topology store) rpc topology.start) (before ++ rec :: after) c)
    {i : ι} {e : HandlerEvent} (hact : rec.actor = some (i, e)) {addr : String}
    (hcontact : contactOf e.1 = some addr) :
    ∃ id tenant, Admitted (buildGateway cfg topology store) (rpc i) (eventsOf i before) id tenant ∧
      ((∃ d, DiscoveryFor cfg tenant d ∧ Configured spawn d addr) ∨
        ∃ opId j id' tenant' md m d, opOf (rpc i) = some opId ∧
          rpc j = .request md (.executePlan m) ∧ m.body.operationId = some opId ∧
          Admitted (buildGateway cfg topology store) (rpc j) (eventsOf j before) id' tenant' ∧
          DiscoveryFor cfg tenant' d ∧ Configured spawn d addr) := by
  -- In process the store is the table of this run.
  obtain rfl := memoryStore_of_built hstore
  have hbuilt := builtFrom_poolDiscovery hbuild
  choose Inv hoffers hstart using fun pool => builtFrom_offers (hbuilt pool)
  have hfrom : ∀ {tenant : String}, FromTenant (buildGateway cfg topology MemoryStore.store)
      (fun pool => Configured spawn (poolDiscovery cfg pool)) tenant addr →
      ∃ d, DiscoveryFor cfg tenant d ∧ Configured spawn d addr := by
    rintro tenant ⟨pool, hpool, haddr⟩
    exact ⟨_, discoveryFor_of_poolFor hbuild hpool, haddr⟩
  -- The run up to the contact has the provenance of every address in the tables.
  obtain ⟨c₁, c₂, hbefore, hstep, -⟩ := hrun.step_at
  have hprov := provenance_run rfl hoffers rfl hstart hbefore
  obtain ⟨id, tenant, hadm, hobt⟩ := contact_obtained (contract_of_run rfl hrun hact) hcontact
  refine ⟨id, tenant, hadm, ?_⟩
  rcases hprov.obtained hobt with htenant | ⟨opId, hop, hfromOp⟩
  · exact .inl (hfrom htenant)
  · -- The address came with an operation: it is that of the tenant who started it.
    obtain ⟨j, id', tenant', md, m, hadm', hrpc, hopId, htenant⟩ := hfromOp
    obtain ⟨d, hd, haddr⟩ := hfrom htenant
    exact .inr ⟨opId, j, id', tenant', md, m, d, hop, hrpc, hopId, hadm', hd, haddr⟩

namespace OnePod

/-- The object of the service, with one ready pod. -/
def endpoints : Endpoints := ⟨some [⟨some [⟨"10.0.0.1"⟩], some [⟨15002⟩]⟩]⟩

/-- The API server has that object for the service `connect`, and none for any other. -/
def spawn : SpawnWatcher := fun ns serviceName _ =>
  .ok fun item => ns = "spark" ∧ serviceName = "connect" ∧ item = .ok (.apply endpoints)

/-- The backends are the pods of the service. -/
def cfg : Spec.Config where
  bindAddr := defaultBindAddr
  discovery := .k8s "spark" "connect" 15002
  adminAddr := defaultAdminAddr
  affinityStore := .memory
  healthCheck := {}
  shutdown := {}
  tenantResolver := {}
  tenantPools := .default
  rateLimit := {}
  audit := {}

/-- The routing that startup builds from the file. -/
def topology : Topology := (buildTenantRouting cfg spawn).toOption.get rfl

/-- The gateway that startup builds from the file. -/
def gateway : Gateway MemorySig := buildGateway cfg topology MemoryStore.store

def rpc (_ : Unit) : Rpc := .request (fun _ => none) (.config ⟨"sess-1", none, []⟩)

/-- The watcher has handled the object. -/
def watched : ProcessState fun pool => (topology.pools pool).model :=
  { topology.start with
    pools := Function.update topology.start.pools 0
      (K8sPool.onEvent 15002 K8sPool.new.setSizeObserver (.ok (.apply endpoints))) }

/-- First the watcher handles the object, and then there is a call. -/
def records : List (ProcessRecord (fun pool => (topology.pools pool).model) Unit) :=
  ⟨none, topology.start, watched⟩ ::
    (schedule (fun _ => processHandler _ .unlimited (.healthy (.user "alice") ""))
      (List.replicate 9 ()) (process gateway rpc watched)).1

/-- The watcher's step and the nine of the call are a run of the process. -/
theorem run : ∃ c,
    Run (processSemantics _ .unlimited) (process gateway rpc topology.start) records c :=
  ⟨_, Run.cons (.env ⟨0, _, ⟨_, ⟨rfl, rfl, rfl⟩, rfl⟩, rfl⟩)
    (schedule_run (fun _ => processHandler_allowed _ .unlimited _) _ _)⟩

/-- The eighth step dials the pod. -/
theorem records_split : ∃ before rec after e, records = before ++ rec :: after ∧
    rec.actor = some ((), e) ∧ contactOf e.1 = some "10.0.0.1:15002" := by
  have hlength : 7 < records.length := by decide +kernel
  exact ⟨records.take 7, records.get ⟨7, hlength⟩, records.drop 8, _, rfl, rfl, rfl⟩

end OnePod

/-- The pod that is dialled is one that the API server listed for the service of the tenant. -/
theorem contacts_configured_onePod :
    ∃ es id tenant d,
      Admitted OnePod.gateway (OnePod.rpc ()) es id tenant ∧
        DiscoveryFor OnePod.cfg tenant d ∧ Configured OnePod.spawn d "10.0.0.1:15002" := by
  obtain ⟨c, hrun⟩ := OnePod.run
  obtain ⟨before, rec, after, e, hsplit, hact, hcontact⟩ := OnePod.records_split
  rw [hsplit] at hrun
  have hbuild : buildTenantRouting OnePod.cfg OnePod.spawn = .ok OnePod.topology := rfl
  obtain ⟨id, tenant, hadm, ⟨d, hd, haddr⟩ | ⟨opId, _, _, _, _, _, _, hop, -⟩⟩ :=
    contacts_configured hbuild rfl hrun hact hcontact
  · exact ⟨_, id, tenant, d, hadm, hd, haddr⟩
  · cases hop

end SparkGateway.Proofs.Handler
