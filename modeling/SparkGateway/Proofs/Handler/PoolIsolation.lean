import SparkGateway.Proofs.Handler.TransitionCases

/-!
# `SparkGateway.Proofs.Handler.PoolIsolation`: whose pool an address comes from

Tenants are kept apart by their pools: an RPC should reach only addresses that the pool of its
tenant has picked. An address comes from a pick, from the session table or from the operation
index. A `Ledger` follows a history of RPCs and adds to the tables what they do not hold: every
pick so far, and who bound each operation last.

The session table is safe, since its keys name the tenant. The operation index is keyed by the
operation id alone and is looked up before `pool_for`, so an RPC that names an operation of
another tenant reaches that tenant's backend, also when its own tenant has no pool.
`poolIsolated_of_ownPools` says that this is the only way: isolation holds in every history in
which an RPC names known operations only if its tenant has the pool of the tenant that bound
them. The invariant is `Sourced`.
-/

set_option autoImplicit false

namespace SparkGateway.Proofs.Handler

open SparkGateway.Lib
open SparkGateway.Spec

/-! ### The ledger -/

/-- A caller: the tenant and the verified user. -/
abbrev Caller : Type := String × String

/-- The tables, the picks so far, and the caller that bound each operation last. -/
structure Ledger where
  tables : MemoryStore.State
  picked : List (PoolId × String)
  binder : String → Option Caller

/-- The operation that the RPC binds, with its caller. -/
def bindsOp (gw : Gateway MemorySig) (env : Env) (rpc : Rpc) (s : MemoryStore.State) :
    Option (String × Caller) :=
  match admission gw env rpc.metadata, rpc with
  | .ok (id, tenant), .request md (.executePlan m) =>
      match m.body.operationId,
        (routeOf gw.router.tenants env (.request md (.executePlan m)) id tenant s).addr with
      | some opId, some _ => if opId == "" then none else some (opId, tenant, id.userId)
      | _, _ => none
  | _, _ => none

namespace Ledger

/-- The ledger before the first RPC. -/
def empty : Ledger := ⟨MemoryStore.new, [], fun _ => none⟩

/-- The ledger after one more RPC. -/
def step (gw : Gateway MemorySig) (l : Ledger) (rpc : Env × Rpc) : Ledger where
  tables := (runRpc gw MemoryStore.apply rpc.1 rpc.2 l.tables).state
  picked := l.picked ++ picks (effects (runRpc gw MemoryStore.apply rpc.1 rpc.2 l.tables).trace)
  binder :=
    match bindsOp gw rpc.1 rpc.2 l.tables with
    | some (opId, caller) => Function.update l.binder opId (some caller)
    | none => l.binder

end Ledger

/-- The ledger after a history of RPCs on an empty store. -/
def ledgerAfter (gw : Gateway MemorySig) (steps : List (Env × Rpc)) : Ledger :=
  steps.foldl (Ledger.step gw) Ledger.empty

/-- The tables of the ledger are those of the history. -/
theorem ledgerAfter_tables (gw : Gateway MemorySig) (steps : List (Env × Rpc)) :
    (ledgerAfter gw steps).tables = storeAfter gw MemoryStore.apply steps MemoryStore.new := by
  unfold ledgerAfter storeAfter
  -- The induction is over the rest of the history, from any ledger.
  suffices h : ∀ l : Ledger, (steps.foldl (Ledger.step gw) l).tables =
      steps.foldl (fun s step => (runRpc gw MemoryStore.apply step.1 step.2 s).state) l.tables from
    h Ledger.empty
  induction steps with
  | nil => intro l; rfl
  | cons step rest ih => intro l; exact ih _

section
variable {gw : Gateway MemorySig} {env : Env} {rpc : Rpc} {s : MemoryStore.State}

/-- An RPC that binds an operation is an admitted `ExecutePlan` that is routed. -/
theorem bindsOp_eq_some {opId : String} {caller : Caller}
    (h : bindsOp gw env rpc s = some (opId, caller)) :
    ∃ addr id tenant, Sets gw env rpc s opId addr ∧
      admission gw env rpc.metadata = .ok (id, tenant) ∧ caller = (tenant, id.userId) ∧
      (routeOf gw.router.tenants env rpc id tenant s).addr = some addr := by
  unfold bindsOp at h
  split at h
  · rename_i id tenant md m hadm
    split at h
    · rename_i op addr hop haddr
      split at h
      · cases h
      · rename_i hempty
        have hne : op ≠ "" := by simpa using hempty
        cases h
        exact ⟨addr, id, tenant, ⟨hne, id, tenant, md, m, hadm, rfl, hop, haddr⟩, hadm, rfl, haddr⟩
    · cases h
  · cases h

/-- An RPC that sets an entry binds the operation. -/
theorem bindsOp_of_sets {opId addr : String} (h : Sets gw env rpc s opId addr) :
    ∃ caller, bindsOp gw env rpc s = some (opId, caller) := by
  obtain ⟨hne, id, tenant, md, m, hadm, rfl, hop, haddr⟩ := h
  have hempty : (opId == "") = false := by simpa using hne
  refine ⟨(tenant, id.userId), ?_⟩
  unfold bindsOp
  rw [hadm]
  simp only [hop, haddr, hempty, Bool.false_eq_true, if_false]

end

/-! ### Isolation -/

section
variable (gw : Gateway MemorySig)

/-- Every backend that an RPC of a tenant is forwarded to was picked, before that in the
history, from the pool of the tenant. -/
def PoolIsolated (steps : List (Env × Rpc)) : Prop :=
  ∀ pre env rpc post, steps = pre ++ (env, rpc) :: post →
    ∀ id tenant, admission gw env rpc.metadata = .ok (id, tenant) →
    ∀ addr ∈ contacts (effects (runRpc gw MemoryStore.apply env rpc
      (storeAfter gw MemoryStore.apply pre MemoryStore.new)).trace),
    ∃ pool, gw.router.tenants.poolFor tenant = .ok (some pool) ∧
      (pool, addr) ∈ (ledgerAfter gw (pre ++ [(env, rpc)])).picked

/-- An RPC names a known operation only if its tenant has the pool of the tenant that bound
the operation last. -/
def OwnPools (steps : List (Env × Rpc)) : Prop :=
  ∀ pre env rpc post, steps = pre ++ (env, rpc) :: post →
    ∀ id tenant, admission gw env rpc.metadata = .ok (id, tenant) →
    ∀ opId binder, opOf rpc = some opId → (ledgerAfter gw pre).tables.ops opId ≠ none →
    (ledgerAfter gw pre).binder opId = some binder →
    gw.router.tenants.poolFor binder.1 = gw.router.tenants.poolFor tenant

/-- The address was picked from the pool of the tenant. -/
def PickedFor (r : TenantRouter) (picked : List (PoolId × String)) (tenant addr : String) : Prop :=
  ∃ pool, r.poolFor tenant = .ok (some pool) ∧ (pool, addr) ∈ picked

/-- Every address in the tables was picked for the tenant of its session, or for the tenant
that bound its operation. -/
structure Sourced (r : TenantRouter) (l : Ledger) : Prop where
  sessions : ∀ key addr, l.tables.sessions key = some addr → PickedFor r l.picked key.tenant addr
  ops : ∀ opId addr, l.tables.ops opId = some addr →
    ∃ binder, l.binder opId = some binder ∧ PickedFor r l.picked binder.1 addr

end

section
variable {r : TenantRouter} {env : Env} {l : Ledger}

/-- What was picked for a tenant stays picked for it. -/
theorem PickedFor.append {picked : List (PoolId × String)} {tenant addr : String}
    (h : PickedFor r picked tenant addr) (more : List (PoolId × String)) :
    PickedFor r (picked ++ more) tenant addr := by
  obtain ⟨pool, hpool, hmem⟩ := h
  exact ⟨pool, hpool, List.mem_append_left _ hmem⟩

/-- An address that an RPC gets by session was picked for its tenant. -/
theorem pickedFor_of_session (hl : Sourced r l) {key : SessionKey} {addr : String}
    (haddr : (routeBySession r env key l.tables).addr = some addr) :
    PickedFor r (l.picked ++ (routeBySession r env key l.tables).picked) key.tenant addr := by
  rcases routeBySession_cases r env key l.tables with
    h | ⟨pool, a, hpool, ⟨-, h⟩ | ⟨hbound, h⟩ | ⟨-, h⟩⟩
  · rw [h] at haddr
    cases haddr
  · rw [h] at haddr ⊢
    cases haddr
    exact ⟨pool, hpool, by simp⟩
  · rw [h] at haddr ⊢
    cases haddr
    exact (hl.sessions key addr hbound).append _
  · rw [h] at haddr ⊢
    cases haddr
    exact ⟨pool, hpool, by simp⟩

/-- A binding after routing by session is one from before, or was picked for its tenant. -/
theorem routeBySession_sourced (hl : Sourced r l) (key : SessionKey) {key' : SessionKey}
    {addr : String}
    (hbound : (routeBySession r env key l.tables).tables.sessions key' = some addr) :
    PickedFor r (l.picked ++ (routeBySession r env key l.tables).picked) key'.tenant addr := by
  rcases routeBySession_cases r env key l.tables with
    h | ⟨pool, a, hpool, ⟨-, h⟩ | ⟨-, h⟩ | ⟨-, h⟩⟩
  · rw [h] at hbound ⊢
    exact (hl.sessions key' addr hbound).append _
  · rw [h] at hbound ⊢
    exact (hl.sessions key' addr hbound).append _
  · rw [h] at hbound ⊢
    exact (hl.sessions key' addr hbound).append _
  · rw [h] at hbound ⊢
    -- Only the binding of the routed key is new, and it is the pick.
    by_cases hkey : key' = key
    · subst hkey
      have haddr : a = addr := by simpa using hbound
      exact ⟨pool, hpool, by simp [haddr]⟩
    · have hold : l.tables.sessions key' = some addr := by simpa [hkey] using hbound
      exact (hl.sessions key' addr hold).append _

/-- A binding after routing is one from before, or was picked for its tenant. -/
theorem routeOf_sourced (hl : Sourced r l) {rpc : Rpc} {id : Identity} {tenant : String}
    {key : SessionKey} {addr : String}
    (hbound : (routeOf r env rpc id tenant l.tables).tables.sessions key = some addr) :
    PickedFor r (l.picked ++ (routeOf r env rpc id tenant l.tables).picked) key.tenant addr := by
  rcases routeOf_cases r env rpc id tenant l.tables with h | ⟨opId, b, -, -, h⟩ | ⟨sessionId, h⟩
  · rw [h] at hbound ⊢
    exact (hl.sessions key addr hbound).append _
  · rw [h] at hbound ⊢
    exact (hl.sessions key addr hbound).append _
  · rw [h] at hbound ⊢
    exact routeBySession_sourced hl _ hbound

end

section
variable {gw : Gateway MemorySig} (hstore : gw.router.store = MemoryStore.store)
include hstore

/-- The picks of the next ledger. -/
theorem step_picked (l : Ledger) (env : Env) (rpc : Rpc) :
    (l.step gw (env, rpc)).picked = l.picked ++ (transition gw env rpc l.tables).picked := by
  rw [← (runRpc_transition env l.tables hstore rpc).2.2]
  rfl

/-- The sessions of the next ledger are sourced. -/
theorem sourced_step_sessions {l : Ledger} (hl : Sourced gw.router.tenants l) (env : Env)
    (rpc : Rpc) {key : SessionKey} {addr : String}
    (hbound : (l.step gw (env, rpc)).tables.sessions key = some addr) :
    PickedFor gw.router.tenants (l.step gw (env, rpc)).picked key.tenant addr := by
  rw [step_picked hstore]
  have htables : (l.step gw (env, rpc)).tables = (transition gw env rpc l.tables).next :=
    (runRpc_transition env l.tables hstore rpc).1
  rw [htables] at hbound
  unfold transition at hbound ⊢
  -- A refused caller changes nothing, and routing binds what was picked for the caller's tenant.
  cases hadm : admission gw env rpc.metadata with
  | error status =>
    rw [hadm] at hbound
    exact (hl.sessions key addr hbound).append _
  | ok p =>
    obtain ⟨id, tenant⟩ := p
    rw [hadm] at hbound
    simp only at hbound ⊢
    cases haddr : (routeOf gw.router.tenants env rpc id tenant l.tables).addr with
    | none =>
      rw [haddr] at hbound
      exact routeOf_sourced hl hbound
    | some a =>
      rw [haddr] at hbound
      exact routeOf_sourced hl (settle_sessions hbound)

/-- What a step does to an entry and its binder: the caller binds the operation, or the binder
stays and the entry stays or goes. -/
theorem step_op_cases (l : Ledger) (env : Env) (rpc : Rpc) (opId : String) :
    (∃ addr id tenant, Sets gw env rpc l.tables opId addr ∧
      admission gw env rpc.metadata = .ok (id, tenant) ∧
      (routeOf gw.router.tenants env rpc id tenant l.tables).addr = some addr ∧
      (l.step gw (env, rpc)).tables.ops opId = some addr ∧
      (l.step gw (env, rpc)).binder opId = some (tenant, id.userId)) ∨
    ((l.step gw (env, rpc)).binder opId = l.binder opId ∧
      ((l.step gw (env, rpc)).tables.ops opId = l.tables.ops opId ∨
        (l.step gw (env, rpc)).tables.ops opId = none)) := by
  have htables : (l.step gw (env, rpc)).tables = (transition gw env rpc l.tables).next :=
    (runRpc_transition env l.tables hstore rpc).1
  rw [htables]
  cases hbinds : bindsOp gw env rpc l.tables with
  | some p =>
    obtain ⟨op, caller⟩ := p
    obtain ⟨addr, id, tenant, hsets, hadm, rfl, haddr⟩ := bindsOp_eq_some hbinds
    have hbinder : (l.step gw (env, rpc)).binder
        = Function.update l.binder op (some (tenant, id.userId)) := by
      simp only [Ledger.step, hbinds]
    rw [hbinder, transition_ops_of_sets hsets]
    by_cases hop : opId = op
    · subst hop
      exact .inl ⟨addr, id, tenant, hsets, hadm, haddr, Function.update_self _ _ _,
        Function.update_self _ _ _⟩
    · exact .inr ⟨Function.update_of_ne hop _ _, .inl (Function.update_of_ne hop _ _)⟩
  | none =>
    have hbinder : (l.step gw (env, rpc)).binder = l.binder := by
      simp only [Ledger.step, hbinds]
    refine .inr ⟨congrFun hbinder opId, ?_⟩
    rcases transition_op_cases gw env rpc l.tables opId with hsame | ⟨addr, hsets⟩ | hclears
    · exact .inl hsame
    · -- An RPC that sets an entry binds the operation.
      obtain ⟨caller, hcaller⟩ := bindsOp_of_sets hsets
      rw [hbinds] at hcaller
      cases hcaller
    · rw [transition_ops_of_clears hclears]
      exact .inr (Function.update_self _ _ _)

/-- The operations of the next ledger are sourced. -/
theorem sourced_step_ops {l : Ledger} (hl : Sourced gw.router.tenants l) (env : Env) (rpc : Rpc)
    {opId addr : String} (hop : (l.step gw (env, rpc)).tables.ops opId = some addr) :
    ∃ binder, (l.step gw (env, rpc)).binder opId = some binder ∧
      PickedFor gw.router.tenants (l.step gw (env, rpc)).picked binder.1 addr := by
  rcases step_op_cases hstore l env rpc opId with
    ⟨a, id, tenant, hsets, hadm, haddr, hnew, hbinder⟩ | ⟨hbinder, hsame | hgone⟩
  · -- The entry is new: the `ExecutePlan` was routed by session.
    obtain rfl : a = addr := Option.some.inj (hnew.symm.trans hop)
    refine ⟨(tenant, id.userId), hbinder, ?_⟩
    rw [step_picked hstore, transition_picked hadm]
    obtain ⟨-, -, -, md, m, -, rfl, -, -⟩ := hsets
    have hsession : (routeBySession gw.router.tenants env
        (keyFromIdentity tenant m.sessionId id) l.tables).addr = some a := haddr
    exact pickedFor_of_session hl hsession
  · -- The entry was there before, and picks are never taken back.
    rw [hsame] at hop
    obtain ⟨binder, hold, hpicked⟩ := hl.ops opId addr hop
    exact ⟨binder, hbinder.trans hold, hpicked.append _⟩
  · rw [hgone] at hop
    cases hop

omit hstore in
/-- The empty ledger is sourced. -/
theorem sourced_empty (r : TenantRouter) : Sourced r Ledger.empty := by
  refine ⟨fun key addr h => ?_, fun opId addr h => ?_⟩
  · cases h
  · cases h

/-- Every step keeps the ledger sourced. -/
theorem sourced_step {l : Ledger} (hl : Sourced gw.router.tenants l) (step : Env × Rpc) :
    Sourced gw.router.tenants (l.step gw step) :=
  ⟨fun _ _ => sourced_step_sessions hstore hl step.1 step.2,
    fun _ _ => sourced_step_ops hstore hl step.1 step.2⟩

/-- The ledger of every history is sourced. -/
theorem sourced_history (steps : List (Env × Rpc)) :
    Sourced gw.router.tenants (ledgerAfter gw steps) := by
  unfold ledgerAfter
  suffices h : ∀ l : Ledger, Sourced gw.router.tenants l →
      Sourced gw.router.tenants (steps.foldl (Ledger.step gw) l) from
    h _ (sourced_empty _)
  induction steps with
  | nil => intro l hl; exact hl
  | cons step rest ih => intro l hl; exact ih _ (sourced_step hstore hl step)

/-- **Pool isolation.** In every history in which an RPC names a known operation only if its
tenant has the pool of the tenant that bound it, every backend that an RPC reaches was picked
from the pool of its tenant. -/
theorem poolIsolated_of_ownPools (steps : List (Env × Rpc)) (hown : OwnPools gw steps) :
    PoolIsolated gw steps := by
  intro pre env rpc post hsteps id tenant hadm addr hcontact
  have hl : Sourced gw.router.tenants (ledgerAfter gw pre) := sourced_history hstore pre
  rw [← ledgerAfter_tables] at hcontact
  obtain ⟨id', tenant', hadm', haddr, -⟩ := contact_routed hstore hcontact
  obtain ⟨rfl, rfl⟩ := Prod.mk.inj (Except.ok.inj (hadm.symm.trans hadm'))
  have hpicked : (ledgerAfter gw (pre ++ [(env, rpc)])).picked = (ledgerAfter gw pre).picked ++
      (routeOf gw.router.tenants env rpc id tenant (ledgerAfter gw pre).tables).picked := by
    have hlast : ledgerAfter gw (pre ++ [(env, rpc)])
        = (ledgerAfter gw pre).step gw (env, rpc) := by
      simp [ledgerAfter]
    rw [hlast, step_picked hstore, transition_picked hadm]
  rw [hpicked]
  rcases routeOf_cases gw.router.tenants env rpc id tenant (ledgerAfter gw pre).tables with
    h | ⟨opId, b, hop, hb, h⟩ | ⟨sessionId, h⟩
  · rw [h] at haddr
    cases haddr
  · -- By operation: the address was picked for the tenant that bound it.
    rw [h] at haddr ⊢
    obtain rfl : b = addr := Option.some.inj haddr
    obtain ⟨binder, hbinder, pool, hpool, hmem⟩ := hl.ops opId b hb
    have hsame := hown pre env rpc post hsteps id tenant hadm opId binder hop (by simp [hb]) hbinder
    exact ⟨pool, hsame ▸ hpool, List.mem_append_left _ hmem⟩
  · rw [h] at haddr ⊢
    exact pickedFor_of_session hl haddr

end

/-! ### A tenant without a pool -/

/-- The steps of a history of two RPCs. -/
theorem pair_steps {first second step : Env × Rpc} {pre post : List (Env × Rpc)}
    (h : [first, second] = pre ++ step :: post) :
    (pre = [] ∧ step = first) ∨ (pre = [first] ∧ step = second) := by
  cases pre with
  | nil =>
    have hhead := (List.cons.inj h).1
    exact .inl ⟨rfl, hhead.symm⟩
  | cons other pre =>
    obtain ⟨rfl, htail⟩ := List.cons.inj h
    cases pre with
    | nil => exact .inr ⟨rfl, (List.cons.inj htail).1.symm⟩
    | cons third pre => simp at htail

/-- Strict isolation: `team-a` has the pool 0, and every other tenant is rejected. -/
def strictGateway : Gateway MemorySig where
  router := ⟨⟨fun tenant => if tenant == "team-a" then some 0 else none, none, .reject⟩,
    MemoryStore.store⟩
  tenantResolver := ⟨.fromClaim, .reject, "default"⟩
  rateLimited := false
  audit := .default

/-- A world in which everything works, for a user with a tenant claim. -/
def teamEnv (user tenant addr : String) : Env := Env.healthy ⟨user, some tenant, []⟩ addr

/-- An `ExecutePlan` of `op-a`. -/
def startOp : Rpc := .request (fun _ => none) (.executePlan ⟨"sess-1", none, ⟨some "op-a", []⟩⟩)

/-- A `ReattachExecute` of `op-a`. -/
def resumeOp : Rpc := .request (fun _ => none) (.reattachExecute ⟨"sess-1", none, ⟨"op-a", []⟩⟩)

/-- A user who reattaches to their own operation stays in their pool. -/
theorem poolIsolated_ownOperation :
    PoolIsolated strictGateway [(teamEnv "alice" "team-a" "be-a:15002", startOp),
      (teamEnv "alice" "team-a" "be-b:15002", resumeOp)] := by
  refine poolIsolated_of_ownPools rfl _ ?_
  intro pre env rpc post hsteps id tenant hadm opId binder hop hknown hbinder
  rcases pair_steps hsteps with ⟨rfl, -⟩ | ⟨rfl, hstep⟩
  · exact absurd rfl hknown
  · cases hstep
    cases hop
    -- The `ExecutePlan` was alice's, and so is this RPC.
    have halice : binder = ("team-a", "alice") := by
      refine Option.some.inj (hbinder.symm.trans ?_)
      decide +kernel
    have hteam : tenant = "team-a" := by
      have hok : admission strictGateway (teamEnv "alice" "team-a" "be-b:15002") resumeOp.metadata
          = .ok (⟨"alice", some "team-a", []⟩, "team-a") := rfl
      exact (Prod.mk.inj (Except.ok.inj (hadm.symm.trans hok))).2
    rw [halice, hteam]

/-- A tenant without a pool is rejected by `pool_for`, but its reattach to an operation of
`team-a` reaches the backend of `team-a`. -/
theorem unmappedTenant_reaches_backend :
    let start := (teamEnv "alice" "team-a" "be-a:15002", startOp)
    let mallory := teamEnv "mallory" "team-x" "be-b:15002"
    strictGateway.router.tenants.poolFor "team-x" =
        .error (.permissionDenied "tenant \"team-x\" has no configured pool") ∧
      contacts (effects (runRpc strictGateway MemoryStore.apply mallory resumeOp
        (storeAfter strictGateway MemoryStore.apply [start] MemoryStore.new)).trace)
          = ["be-a:15002"] ∧
      ¬ PoolIsolated strictGateway [start, (mallory, resumeOp)] := by
  intro start mallory
  have hpool : strictGateway.router.tenants.poolFor "team-x" =
      .error (.permissionDenied "tenant \"team-x\" has no configured pool") := by decide +kernel
  have hcontacts : contacts (effects (runRpc strictGateway MemoryStore.apply mallory resumeOp
      (storeAfter strictGateway MemoryStore.apply [start] MemoryStore.new)).trace)
        = ["be-a:15002"] := by decide +kernel
  refine ⟨hpool, hcontacts, ?_⟩
  intro hisolated
  -- Isolation would need a pool for the tenant that has none.
  obtain ⟨pool, hok, -⟩ := hisolated [start] mallory resumeOp [] rfl ⟨"mallory", some "team-x", []⟩
    "team-x" rfl "be-a:15002" (by rw [hcontacts]; exact List.mem_singleton_self _)
  rw [hpool] at hok
  cases hok

end SparkGateway.Proofs.Handler
