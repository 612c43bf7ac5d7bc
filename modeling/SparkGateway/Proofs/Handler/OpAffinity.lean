import SparkGateway.Lib.Steps
import SparkGateway.Proofs.Handler.TransitionCases

/-!
# `SparkGateway.Proofs.Handler.OpAffinity`: an operation stays where it runs

Once an `ExecutePlan` with an operation id was forwarded to a backend, the later RPCs that name
the operation should reach that backend, until the operation is released. A `ReleaseExecute`
with `ReleaseAll` releases it. One with `ReleaseUntil` drops buffered responses only, and the
operation goes on. The gateway forgets the operation after either of them.

`opAffinity_iff` says what this costs. As long as no `ExecutePlan` reuses the id and no
`ReleaseAll` is answered Ok, every RPC that names the operation reaches its backend if and only
if no partial release of it was answered Ok. The entry of the index is the invariant: the steps
that change it are those of `transition_op_cases` (`op_step`), so it survives the history
(`op_history`).
-/

set_option autoImplicit false

namespace SparkGateway.Proofs.Handler

open SparkGateway.Lib
open SparkGateway.Spec

/-- The RPC is an `ExecutePlan` with the operation id. -/
def Executes (opId : String) (rpc : Rpc) : Prop :=
  ∃ md m, rpc = .request md (.executePlan m) ∧ m.body.operationId = some opId

/-- The RPC is a `ReleaseExecute` that carries `ReleaseAll`. -/
def ReleasesAll (rpc : Rpc) : Prop :=
  ∃ md m, rpc = .request md (.releaseExecute m) ∧ m.body.release = some .releaseAll

section
variable (gw : Gateway MemorySig)

/-- The store after a history of RPCs. -/
abbrev tablesAfter (steps : List (Env × Rpc)) (s : MemoryStore.State) : MemoryStore.State :=
  storeAfter gw MemoryStore.apply steps s

/-- One more RPC. -/
theorem tablesAfter_snoc (steps : List (Env × Rpc)) (env : Env) (rpc : Rpc)
    (s : MemoryStore.State) :
    tablesAfter gw (steps ++ [(env, rpc)]) s =
      (runRpc gw MemoryStore.apply env rpc (tablesAfter gw steps s)).state := by
  unfold tablesAfter storeAfter
  rw [List.foldl_append]
  rfl

/-- The backends that an RPC is forwarded to. -/
abbrev forwardedTo (env : Env) (rpc : Rpc) (s : MemoryStore.State) : List String :=
  contacts (effects (runRpc gw MemoryStore.apply env rpc s).trace)

/-- No step of the history is an `ExecutePlan` with the operation id, or a `ReleaseAll` of the
operation that its backend answers Ok. -/
def NotReleased (opId : String) (steps : List (Env × Rpc)) (s : MemoryStore.State) : Prop :=
  ∀ pre env rpc post, steps = pre ++ (env, rpc) :: post → ¬ Executes opId rpc ∧
    ¬ (ReleasesAll rpc ∧ Clears gw env rpc (tablesAfter gw pre s) opId)

/-- A step of the history is a `ReleaseExecute` of the operation without `ReleaseAll`, and its
backend answers Ok. -/
def PartlyReleased (opId : String) (steps : List (Env × Rpc)) (s : MemoryStore.State) : Prop :=
  ∃ pre env rpc post, steps = pre ++ (env, rpc) :: post ∧ ¬ ReleasesAll rpc ∧
    Clears gw env rpc (tablesAfter gw pre s) opId

/-- Every RPC that names the operation and is forwarded is forwarded to `b`. -/
def OpAffinity (opId b : String) (s : MemoryStore.State) : Prop :=
  ∀ env rpc, opOf rpc = some opId → ∀ addr ∈ forwardedTo gw env rpc s, addr = b

end

section
variable {gw : Gateway MemorySig} {opId : String} {env : Env} {rpc : Rpc}
  {steps : List (Env × Rpc)} {s : MemoryStore.State}

/-- The empty history releases no operation. -/
theorem notReleased_nil : NotReleased gw opId [] s := by
  intro pre env rpc post hsteps
  exact absurd hsteps (nil_ne_split pre (env, rpc) post)

/-- The first step of a history and the rest. -/
theorem notReleased_cons :
    NotReleased gw opId ((env, rpc) :: steps) s ↔
      (¬ Executes opId rpc ∧ ¬ (ReleasesAll rpc ∧ Clears gw env rpc s opId)) ∧
        NotReleased gw opId steps (runRpc gw MemoryStore.apply env rpc s).state := by
  have hsteps := forall_step_cons (fun pre step => ¬ Executes opId step.2 ∧
    ¬ (ReleasesAll step.2 ∧ Clears gw step.1 step.2 (tablesAfter gw pre s) opId)) (env, rpc) steps
  simp only [Prod.forall] at hsteps
  exact hsteps

/-- An operation is partly released by the first step or by one of the rest. -/
theorem partlyReleased_cons :
    PartlyReleased gw opId ((env, rpc) :: steps) s ↔
      (¬ ReleasesAll rpc ∧ Clears gw env rpc s opId) ∨
        PartlyReleased gw opId steps (runRpc gw MemoryStore.apply env rpc s).state := by
  have hsteps := exists_step_cons (fun pre step => ¬ ReleasesAll step.2 ∧
    Clears gw step.1 step.2 (tablesAfter gw pre s) opId) (env, rpc) steps
  simp only [Prod.exists] at hsteps
  exact hsteps

end

section
variable {gw : Gateway MemorySig} (hstore : gw.router.store = MemoryStore.store)
  {opId b : String}
include hstore

/-- A step that neither sets nor clears the operation leaves its entry alone. -/
theorem op_same {env : Env} {rpc : Rpc} {s : MemoryStore.State}
    (hset : ¬ ∃ addr, Sets gw env rpc s opId addr) (hclear : ¬ Clears gw env rpc s opId) :
    (runRpc gw MemoryStore.apply env rpc s).state.ops opId = s.ops opId := by
  rw [(runRpc_transition env s hstore rpc).1]
  rcases transition_op_cases gw env rpc s opId with hsame | hsets | hclears
  · exact hsame
  · exact absurd hsets hset
  · exact absurd hclears hclear

/-- A step that neither executes nor clears the operation leaves its entry alone. -/
theorem op_step {env : Env} {rpc : Rpc} {s : MemoryStore.State} (hexec : ¬ Executes opId rpc)
    (hclear : ¬ Clears gw env rpc s opId) :
    (runRpc gw MemoryStore.apply env rpc s).state.ops opId = s.ops opId := by
  refine op_same hstore ?_ hclear
  rintro ⟨addr, -, -, -, md, m, -, hrpc, hop, -⟩
  exact hexec ⟨md, m, hrpc, hop⟩

/-- A step that sets the operation enters the address that it is routed to. -/
theorem op_set {env : Env} {rpc : Rpc} {s : MemoryStore.State} (hsets : Sets gw env rpc s opId b) :
    (runRpc gw MemoryStore.apply env rpc s).state.ops opId = some b := by
  rw [(runRpc_transition env s hstore rpc).1, transition_ops_of_sets hsets]
  exact Function.update_self _ _ _

/-- A step that clears the operation leaves no entry. -/
theorem op_cleared {env : Env} {rpc : Rpc} {s : MemoryStore.State}
    (hclear : Clears gw env rpc s opId) :
    (runRpc gw MemoryStore.apply env rpc s).state.ops opId = none := by
  rw [(runRpc_transition env s hstore rpc).1, transition_ops_of_clears hclear]
  exact Function.update_self _ _ _

/-- An `ExecutePlan` that is forwarded enters its backend into the index. -/
theorem op_executed {env : Env} {rpc : Rpc} {s : MemoryStore.State} (hexec : Executes opId rpc)
    (hne : opId ≠ "") (hb : b ∈ forwardedTo gw env rpc s) :
    (runRpc gw MemoryStore.apply env rpc s).state.ops opId = some b := by
  obtain ⟨id, tenant, hadm, haddr, -⟩ := contact_routed hstore hb
  obtain ⟨md, m, hrpc, hop⟩ := hexec
  exact op_set hstore ⟨hne, id, tenant, md, m, hadm, hrpc, hop, haddr⟩

/-- A history without a release keeps the entry. -/
theorem op_history : ∀ (steps : List (Env × Rpc)) (s : MemoryStore.State),
    NotReleased gw opId steps s → ¬ PartlyReleased gw opId steps s →
    (tablesAfter gw steps s).ops opId = s.ops opId := by
  intro steps
  induction steps with
  | nil => intro s _ _; rfl
  | cons step rest ih =>
    intro s hnot hpart
    obtain ⟨env, rpc⟩ := step
    obtain ⟨⟨hexec, hall⟩, hnot⟩ := notReleased_cons.mp hnot
    obtain ⟨hhead, hpart⟩ := not_or.mp (mt partlyReleased_cons.mpr hpart)
    have hclear : ¬ Clears gw env rpc s opId := by
      intro hclear
      by_cases hreleases : ReleasesAll rpc
      · exact hall ⟨hreleases, hclear⟩
      · exact hhead ⟨hreleases, hclear⟩
    show (tablesAfter gw rest (runRpc gw MemoryStore.apply env rpc s).state).ops opId = _
    rw [ih _ hnot hpart, op_step hstore hexec hclear]

/-- Without an entry and an `ExecutePlan` for it, there is none later. -/
theorem op_history_none : ∀ (steps : List (Env × Rpc)) (s : MemoryStore.State),
    (∀ step ∈ steps, ¬ Executes opId step.2) → s.ops opId = none →
    (tablesAfter gw steps s).ops opId = none := by
  intro steps
  induction steps with
  | nil => intro s _ hnone; exact hnone
  | cons step rest ih =>
    intro s hexec hnone
    obtain ⟨env, rpc⟩ := step
    refine ih _ (fun step hstep => hexec step (List.mem_cons_of_mem _ hstep)) ?_
    by_cases hclear : Clears gw env rpc s opId
    · exact op_cleared hstore hclear
    · rw [op_step hstore (hexec (env, rpc) List.mem_cons_self) hclear]
      exact hnone

/-- An RPC that names a known operation is forwarded to its backend only. -/
theorem opAffinity_of_entry {s : MemoryStore.State} (hne : opId ≠ "")
    (hb : s.ops opId = some b) : OpAffinity gw opId b s := by
  intro env rpc hop addr haddr
  obtain ⟨id, tenant, -, hroute, -⟩ := contact_routed hstore haddr
  rw [routeOf_of_op hop hne hb] at hroute
  exact (Option.some.inj hroute).symm

omit hstore in
/-- There is always another address. -/
theorem append_x_ne (b : String) : b ++ "x" ≠ b := by
  intro heq
  have hlength := congrArg String.length heq
  rw [String.length_append] at hlength
  have hx : "x".length = 1 := rfl
  omega

/-- Once the entry is gone, a client that names the operation without a session can reach any
address that its pool picks. -/
theorem not_opAffinity_of_none {env : Env} {exec : Rpc} {s s' : MemoryStore.State}
    (hexec : Executes opId exec) (hb : b ∈ forwardedTo gw env exec s)
    (hnone : s'.ops opId = none) : ¬ OpAffinity gw opId b s' := by
  intro haff
  obtain ⟨id, tenant, hadm, haddr, -⟩ := contact_routed hstore hb
  obtain ⟨md, m, rfl, -⟩ := hexec
  -- The client of the `ExecutePlan` has a pool.
  obtain ⟨pool, hpool, -⟩ :
      LeadsTo gw.router.tenants env (keyFromIdentity tenant m.sessionId id) s b :=
    (routeBySession_addr_iff _ _ _ _ _).mp haddr
  -- It reattaches without a session, and the pool picks another address.
  let env' : Env := { env with pick := fun _ => some (b ++ "x"), channel := fun _ => .ok () }
  let rpc' : Rpc := .request md (.reattachExecute ⟨"", none, ⟨opId, []⟩⟩)
  have hroute' : (routeOf gw.router.tenants env' rpc' id tenant s').addr = some (b ++ "x") := by
    have hmiss : (if opId == "" then none else s'.ops opId) = none := by
      rw [hnone]
      exact ite_self _
    show (routeByOp gw.router.tenants env' opId (keyFromIdentity tenant "" id) s').addr = _
    simp only [routeByOp, hmiss]
    exact (routeBySession_addr_iff _ _ _ _ _).mpr ⟨pool, hpool, rfl⟩
  have hadm' : admission gw env' rpc'.metadata = .ok (id, tenant) := hadm
  have hcontact : b ++ "x" ∈ forwardedTo gw env' rpc' s' :=
    contact_of_routed hstore hadm' hroute' rfl
  exact append_x_ne b (haff env' rpc' rfl _ hcontact)

/-- **Operation affinity.** After an `ExecutePlan` with the operation id was forwarded to `b`,
and while no `ExecutePlan` reuses the id and no `ReleaseAll` of the operation is answered Ok,
every RPC that names the operation and is forwarded reaches `b`, if and only if no other
`ReleaseExecute` of it was answered Ok. -/
theorem opAffinity_iff {env : Env} {exec : Rpc} {s : MemoryStore.State}
    (hexec : Executes opId exec) (hne : opId ≠ "") (hb : b ∈ forwardedTo gw env exec s)
    (steps : List (Env × Rpc))
    (hnot : NotReleased gw opId steps (runRpc gw MemoryStore.apply env exec s).state) :
    OpAffinity gw opId b (tablesAfter gw steps (runRpc gw MemoryStore.apply env exec s).state) ↔
      ¬ PartlyReleased gw opId steps (runRpc gw MemoryStore.apply env exec s).state := by
  constructor
  · rintro haff ⟨pre, env', rpc', post, hsteps, -, hclear⟩
    refine not_opAffinity_of_none hstore hexec hb ?_ haff
    -- The partial release removes the entry, and nothing after it puts it back.
    rw [hsteps, tablesAfter, storeAfter, List.foldl_append, List.foldl_cons]
    refine op_history_none hstore post _ ?_ (op_cleared hstore hclear)
    intro step hstep
    obtain ⟨post₁, post₂, hpost⟩ := List.append_of_mem hstep
    refine (hnot (pre ++ (env', rpc') :: post₁) step.1 step.2 post₂ ?_).1
    rw [hsteps, hpost, List.append_assoc]
    rfl
  · intro hpart
    refine opAffinity_of_entry hstore hne ?_
    rw [op_history hstore steps _ hnot hpart]
    exact op_executed hstore hexec hne hb

end

/-! ### A partial release -/

/-- Alice, with one pool for every tenant. -/
def alice : Identity := Identity.user "alice"

/-- The gateway of the example. -/
def onePool : Gateway MemorySig := Gateway.inProcess (.single 0)

/-- An `ExecutePlan` with the operation id `op-1`. -/
def executeOp : Rpc := .request (fun _ => none) (.executePlan ⟨"sess-1", none, ⟨some "op-1", []⟩⟩)

/-- A `ReleaseExecute` of `op-1` up to a response. -/
def releaseUntil : Rpc :=
  .request (fun _ => none)
    (.releaseExecute ⟨"sess-1", none, ⟨"op-1", some (.releaseUntil "resp-1"), []⟩⟩)

/-- A `ReattachExecute` of `op-1` that names no session. -/
def reattachOp : Rpc := .request (fun _ => none) (.reattachExecute ⟨"", none, ⟨"op-1", []⟩⟩)

/-- A `ReleaseExecute` of another operation. -/
def releaseOther : Rpc :=
  .request (fun _ => none) (.releaseExecute ⟨"sess-1", none, ⟨"op-2", some .releaseAll, []⟩⟩)

/-- The pool picks another backend by now. The operation is reattached, and another operation of the
session is released. -/
def meanwhile : List (Env × Rpc) :=
  [(Env.healthy alice "be-b:15002", reattachOp), (Env.healthy alice "be-b:15002", releaseOther)]

/-- None of this releases the operation. -/
theorem not_clears_meanwhile (s : MemoryStore.State) :
    ∀ step ∈ meanwhile, ¬ Executes "op-1" step.2 ∧ ¬ Clears onePool step.1 step.2 s "op-1" := by
  intro step hstep
  simp only [meanwhile, List.mem_cons, List.not_mem_nil, or_false] at hstep
  rcases hstep with rfl | rfl
  · refine ⟨?_, ?_⟩
    · rintro ⟨md, m, hrpc, -⟩
      cases hrpc
    · rintro ⟨-, id, tenant, md, m, addr, -, hrpc, -⟩
      cases hrpc
  · refine ⟨?_, ?_⟩
    · rintro ⟨md, m, hrpc, -⟩
      cases hrpc
    · rintro ⟨-, id, tenant, md, m, addr, -, hrpc, hop, -⟩
      cases hrpc
      exact absurd hop (by decide)

/-- After these RPCs the operation is still where it runs, and the next reattach goes there. -/
theorem opAffinity_executed :
    let s := tablesAfter onePool meanwhile (runRpc onePool MemoryStore.apply
      (Env.healthy alice "be-a:15002") executeOp MemoryStore.new).state
    OpAffinity onePool "op-1" "be-a:15002" s ∧
      forwardedTo onePool (Env.healthy alice "be-b:15002") reattachOp s = ["be-a:15002"] := by
  have hforwarded : "be-a:15002" ∈ forwardedTo onePool (Env.healthy alice "be-a:15002") executeOp
      MemoryStore.new := List.mem_singleton.mpr rfl
  refine ⟨(opAffinity_iff rfl ⟨_, _, rfl, rfl⟩ (by decide) hforwarded meanwhile ?_).mpr ?_,
    by decide +kernel⟩
  · intro pre env rpc post hsteps
    have hclear := not_clears_meanwhile (tablesAfter onePool pre (runRpc onePool MemoryStore.apply
      (Env.healthy alice "be-a:15002") executeOp MemoryStore.new).state) (env, rpc)
      (by rw [hsteps]; simp)
    exact ⟨hclear.1, fun h => hclear.2 h.2⟩
  · rintro ⟨pre, env, rpc, post, hsteps, -, hclear⟩
    exact (not_clears_meanwhile _ (env, rpc) (by rw [hsteps]; simp)).2 hclear

/-- The backend answers a `ReleaseUntil` and keeps the operation, but the gateway forgets it: a
reattach without a session goes to another backend. -/
theorem partialRelease_loses_operation :
    let healthy := Env.healthy alice "be-a:15002"
    let s₁ := (runRpc onePool MemoryStore.apply healthy executeOp MemoryStore.new).state
    let s₂ := tablesAfter onePool [(healthy, releaseUntil)] s₁
    forwardedTo onePool healthy executeOp MemoryStore.new = ["be-a:15002"] ∧
      NotReleased onePool "op-1" [(healthy, releaseUntil)] s₁ ∧
      forwardedTo onePool (Env.healthy alice "be-b:15002") reattachOp s₂ = ["be-b:15002"] ∧
      ¬ OpAffinity onePool "op-1" "be-a:15002" s₂ := by
  intro healthy s₁ s₂
  have hreattach : forwardedTo onePool (Env.healthy alice "be-b:15002") reattachOp s₂
      = ["be-b:15002"] := by decide +kernel
  refine ⟨rfl, ?_, hreattach, ?_⟩
  · -- The history has one step.
    refine notReleased_cons.mpr ⟨⟨?_, ?_⟩, notReleased_nil⟩
    · rintro ⟨md, m, hrpc, -⟩
      cases hrpc
    · rintro ⟨⟨md, m, hrpc, hall⟩, -⟩
      cases hrpc
      cases hall
  · intro haff
    have hsame := haff (Env.healthy alice "be-b:15002") reattachOp rfl "be-b:15002"
      (by rw [hreattach]; exact List.mem_singleton_self _)
    exact absurd hsame (by decide)

end SparkGateway.Proofs.Handler
