import SparkGateway.Proofs.Handler.OpAffinity
import SparkGateway.Proofs.Handler.PoolIsolation

/-!
# `SparkGateway.Proofs.Handler.OpTakeover`: who can change an operation's entry

An `ExecutePlan` enters its operation into the index. The entry should belong to its caller:
RPCs of others leave it alone. The index has no owner, though. `remember_op` overwrites and
`forget_op` removes whatever the id names, and the id is the client's choice.

`Entry` follows one entry through a history: an `ExecutePlan` of the caller set it, and it has
been there since. `opEntriesKept_iff` says that entries survive every stretch of RPCs of others
if and only if none of these is a `Takeover`: an `ExecutePlan` of the operation whose session
leads elsewhere, or a `ReleaseExecute` of it that its backend answers Ok.
-/

set_option autoImplicit false

namespace SparkGateway.Proofs.Handler

open SparkGateway.Lib
open SparkGateway.Spec

/-! ### Entries and takeovers -/

section
variable (gw : Gateway MemorySig)

/-- The store after a history of RPCs on an empty one. -/
abbrev tablesOf (steps : List (Env × Rpc)) : MemoryStore.State :=
  tablesAfter gw steps MemoryStore.new

/-- The RPC is admitted, and this is its caller. -/
def IsBy (caller : Caller) (env : Env) (rpc : Rpc) : Prop :=
  ∃ id tenant, admission gw env rpc.metadata = .ok (id, tenant) ∧ caller = (tenant, id.userId)

/-- After the history the index sends the operation to `b`: an `ExecutePlan` of the caller set
this entry, and it has been there since. -/
inductive Entry (opId b : String) (caller : Caller) : List (Env × Rpc) → Prop where
  | set {pre : List (Env × Rpc)} {env : Env} {rpc : Rpc} (hby : IsBy gw caller env rpc)
      (hsets : Sets gw env rpc (tablesOf gw pre) opId b) :
      Entry opId b caller (pre ++ [(env, rpc)])
  | keep {pre : List (Env × Rpc)} {step : Env × Rpc} (hentry : Entry opId b caller pre)
      (hop : (tablesOf gw (pre ++ [step])).ops opId = some b) :
      Entry opId b caller (pre ++ [step])

/-- The RPC is an admitted `ExecutePlan` of the operation whose session leads to another address
than `b`, or an admitted `ReleaseExecute` of it that `b` answers Ok. -/
def Takeover (env : Env) (rpc : Rpc) (s : MemoryStore.State) (opId b : String) : Prop :=
  opId ≠ "" ∧ ∃ id tenant md, admission gw env rpc.metadata = .ok (id, tenant) ∧
    ((∃ m addr, rpc = .request md (.executePlan m) ∧ m.body.operationId = some opId ∧
        LeadsTo gw.router.tenants env (keyFromIdentity tenant m.sessionId id) s addr ∧ addr ≠ b) ∨
      ∃ m, rpc = .request md (.releaseExecute m) ∧ m.body.operationId = opId ∧
        answeredOk env b (.releaseExecute (m.stamp id)) = true)

/-- Every entry survives every stretch of RPCs of other callers. -/
def OpEntriesKept (steps : List (Env × Rpc)) : Prop :=
  ∀ pre stretch post, steps = pre ++ stretch ++ post →
    ∀ opId b caller, Entry gw opId b caller pre →
    (∀ step ∈ stretch, ¬ IsBy gw caller step.1 step.2) →
    (tablesOf gw (pre ++ stretch)).ops opId = some b

/-- No RPC of another caller takes over an entry. -/
def NoTakeover (steps : List (Env × Rpc)) : Prop :=
  ∀ pre env rpc post, steps = pre ++ (env, rpc) :: post →
    ∀ opId b caller, Entry gw opId b caller pre → ¬ IsBy gw caller env rpc →
    ¬ Takeover gw env rpc (tablesOf gw pre) opId b

end

/-! ### One step -/

section
variable {gw : Gateway MemorySig} {env : Env} {rpc : Rpc} {s : MemoryStore.State}
  {opId b : String}

/-- A takeover sets the entry to another address or clears it. -/
theorem takeover_writes (hb : s.ops opId = some b) (h : Takeover gw env rpc s opId b) :
    (∃ addr, addr ≠ b ∧ Sets gw env rpc s opId addr) ∨ Clears gw env rpc s opId := by
  obtain ⟨hne, id, tenant, md, hadm, ⟨m, addr, rfl, hop, hleads, haddr⟩ | ⟨m, rfl, hop, hok⟩⟩ := h
  · left
    have hroute : (routeOf gw.router.tenants env (.request md (.executePlan m)) id tenant s).addr
        = some addr := (routeBySession_addr_iff _ _ _ _ _).mpr hleads
    exact ⟨addr, haddr, hne, id, tenant, md, m, hadm, rfl, hop, hroute⟩
  · -- The operation is known, so the `ReleaseExecute` goes to its backend.
    right
    have hroute : routeOf gw.router.tenants env (.request md (.releaseExecute m)) id tenant s
        = ⟨some b, s, []⟩ := routeOf_of_op (congrArg some hop) hne hb
    exact ⟨hne, id, tenant, md, m, b, hadm, rfl, hop, by rw [hroute], hok⟩

/-- An RPC that sets the entry to another address is a takeover. -/
theorem takeover_of_sets {addr : String} (h : Sets gw env rpc s opId addr) (haddr : addr ≠ b) :
    Takeover gw env rpc s opId b := by
  obtain ⟨hne, id, tenant, md, m, hadm, rfl, hop, hroute⟩ := h
  have hleads : LeadsTo gw.router.tenants env (keyFromIdentity tenant m.sessionId id) s addr :=
    (routeBySession_addr_iff _ _ _ _ _).mp hroute
  exact ⟨hne, id, tenant, md, hadm, .inl ⟨m, addr, rfl, hop, hleads, haddr⟩⟩

/-- An RPC that clears the entry is a takeover. -/
theorem takeover_of_clears (hb : s.ops opId = some b) (h : Clears gw env rpc s opId) :
    Takeover gw env rpc s opId b := by
  obtain ⟨hne, id, tenant, md, m, addr, hadm, rfl, hop, hroute, hok⟩ := h
  have hknown : routeOf gw.router.tenants env (.request md (.releaseExecute m)) id tenant s
      = ⟨some b, s, []⟩ := routeOf_of_op (congrArg some hop) hne hb
  rw [hknown] at hroute
  obtain rfl : b = addr := Option.some.inj hroute
  exact ⟨hne, id, tenant, md, hadm, .inr ⟨m, rfl, hop, hok⟩⟩

/-- An RPC keeps an entry if and only if it is no takeover. -/
theorem op_kept_iff (hstore : gw.router.store = MemoryStore.store) (hb : s.ops opId = some b) :
    (runRpc gw MemoryStore.apply env rpc s).state.ops opId = some b ↔
      ¬ Takeover gw env rpc s opId b := by
  rw [(runRpc_transition env s hstore rpc).1]
  constructor
  · intro hkept htakeover
    rcases takeover_writes hb htakeover with ⟨addr, haddr, hsets⟩ | hclears
    · rw [transition_ops_of_sets hsets, Function.update_self] at hkept
      exact haddr (Option.some.inj hkept)
    · rw [transition_ops_of_clears hclears, Function.update_self] at hkept
      cases hkept
  · intro hno
    rcases transition_op_cases gw env rpc s opId with hsame | ⟨addr, hsets⟩ | hclears
    · rw [hsame]
      exact hb
    · -- The entry is set again, to the address it has.
      have haddr : addr = b := by
        by_contra hother
        exact hno (takeover_of_sets hsets hother)
      rw [transition_ops_of_sets hsets, Function.update_self, haddr]
    · exact absurd (takeover_of_clears hb hclears) hno

end

/-! ### Whole histories -/

section
variable {gw : Gateway MemorySig} (hstore : gw.router.store = MemoryStore.store)
  {opId b : String} {caller : Caller}

/-- The store after one more RPC. -/
theorem tablesOf_snoc (pre : List (Env × Rpc)) (env : Env) (rpc : Rpc) :
    tablesOf gw (pre ++ [(env, rpc)]) =
      (runRpc gw MemoryStore.apply env rpc (tablesOf gw pre)).state :=
  tablesAfter_snoc gw pre env rpc MemoryStore.new

include hstore

/-- An entry is in the index. -/
theorem entry_tables {steps : List (Env × Rpc)} (h : Entry gw opId b caller steps) :
    (tablesOf gw steps).ops opId = some b := by
  cases h with
  | set hby hsets =>
    rw [tablesOf_snoc]
    exact op_set hstore hsets
  | keep hentry hop => exact hop

/-- A stretch of RPCs of other callers keeps the entry, if none of them takes it over. -/
theorem entry_stretch (stretch : List (Env × Rpc)) :
    ∀ pre post : List (Env × Rpc), NoTakeover gw (pre ++ stretch ++ post) →
      Entry gw opId b caller pre → (∀ step ∈ stretch, ¬ IsBy gw caller step.1 step.2) →
      Entry gw opId b caller (pre ++ stretch) := by
  induction stretch with
  | nil =>
    intro pre post _ hentry _
    rw [List.append_nil]
    exact hentry
  | cons step rest ih =>
    intro pre post hno hentry hothers
    obtain ⟨env, rpc⟩ := step
    -- The first RPC of the stretch is no takeover.
    have hstep : ¬ Takeover gw env rpc (tablesOf gw pre) opId b := by
      refine hno pre env rpc (rest ++ post) ?_ opId b caller hentry
        (hothers (env, rpc) List.mem_cons_self)
      rw [List.append_assoc]
      rfl
    have hkept : Entry gw opId b caller (pre ++ [(env, rpc)]) := by
      refine .keep hentry ?_
      rw [tablesOf_snoc]
      exact (op_kept_iff hstore (entry_tables hstore hentry)).mpr hstep
    -- The others follow from there.
    have hsplit : pre ++ (env, rpc) :: rest = pre ++ [(env, rpc)] ++ rest := by simp
    rw [hsplit] at hno ⊢
    exact ih (pre ++ [(env, rpc)]) post hno hkept
      fun other hother => hothers other (List.mem_cons_of_mem _ hother)

/-- **Operation ownership.** In every history, the entries of the operation index survive the
RPCs of other callers if and only if none of these takes an entry over. -/
theorem opEntriesKept_iff (steps : List (Env × Rpc)) :
    OpEntriesKept gw steps ↔ NoTakeover gw steps := by
  constructor
  · intro hkept pre env rpc post hsteps opId b caller hentry hother
    have hafter := hkept pre [(env, rpc)] post (by rw [hsteps]; simp) opId b caller hentry
      (by simpa using hother)
    rw [tablesOf_snoc] at hafter
    exact (op_kept_iff hstore (entry_tables hstore hentry)).mp hafter
  · intro hno pre stretch post hsteps opId b caller hentry hothers
    rw [hsteps] at hno
    exact entry_tables hstore (entry_stretch hstore stretch pre post hno hentry hothers)

end

/-! ### Two users of one tenant -/

/-- Another user. -/
def bob : Identity := Identity.user "bob"

/-- Alice executes `op-1` on `be-a:15002`. -/
def aliceExecutes : Env × Rpc := (Env.healthy alice "be-a:15002", executeOp)

/-- Bob executes an operation, and the pool picks `be-b:15002`. -/
def bobExecutes (opId : String) : Env × Rpc :=
  (Env.healthy bob "be-b:15002",
    .request (fun _ => none) (.executePlan ⟨"sess-2", none, ⟨some opId, []⟩⟩))

/-- Bob releases `op-1`. -/
def bobReleases : Env × Rpc :=
  (Env.healthy bob "be-b:15002",
    .request (fun _ => none) (.releaseExecute ⟨"sess-2", none, ⟨"op-1", some .releaseAll, []⟩⟩))

/-- Bob's own operation leaves alice's alone. -/
theorem opEntriesKept_ownOperations :
    OpEntriesKept onePool [aliceExecutes, bobExecutes "op-2"] := by
  refine (opEntriesKept_iff rfl _).mpr ?_
  intro pre env rpc post hsteps opId b caller hentry _ htakeover
  have hknown := entry_tables rfl hentry
  rcases pair_steps hsteps with ⟨rfl, -⟩ | ⟨rfl, hstep⟩
  · cases hknown
  · cases hstep
    obtain ⟨-, id, tenant, md, -, ⟨m, addr, hrpc, hop, -⟩ | ⟨m, hrpc, -⟩⟩ := htakeover
    · cases hrpc
      obtain rfl : "op-2" = opId := Option.some.inj hop
      have hnone : (tablesOf onePool [aliceExecutes]).ops "op-2" = none := by decide +kernel
      rw [hnone] at hknown
      cases hknown
    · cases hrpc

/-- Alice's entry after her `ExecutePlan`. -/
theorem entry_aliceExecutes :
    Entry onePool "op-1" "be-a:15002" ("default", "alice") [aliceExecutes] := by
  have hby : IsBy onePool ("default", "alice") aliceExecutes.1 aliceExecutes.2 :=
    ⟨alice, "default", rfl, rfl⟩
  have hsets : Sets onePool aliceExecutes.1 aliceExecutes.2 (tablesOf onePool []) "op-1"
      "be-a:15002" :=
    ⟨by decide, alice, "default", _, _, rfl, rfl, rfl, by decide +kernel⟩
  show Entry onePool "op-1" "be-a:15002" ("default", "alice") ([] ++ [aliceExecutes])
  exact .set hby hsets

/-- An RPC of bob that loses alice's entry. -/
theorem not_opEntriesKept_of_lost {rpc : Rpc} (hmd : rpc.metadata = fun _ => none)
    (hlost : (tablesOf onePool [aliceExecutes, (Env.healthy bob "be-b:15002", rpc)]).ops "op-1"
      ≠ some "be-a:15002") :
    ¬ OpEntriesKept onePool [aliceExecutes, (Env.healthy bob "be-b:15002", rpc)] := by
  intro hkept
  refine hlost (hkept [aliceExecutes] [(Env.healthy bob "be-b:15002", rpc)] [] rfl "op-1" _ _
    entry_aliceExecutes ?_)
  -- Bob is not alice.
  rintro step hstep ⟨id, tenant, hadm, hcaller⟩
  obtain rfl := List.mem_singleton.mp hstep
  have hbob : admission onePool (Env.healthy bob "be-b:15002") rpc.metadata
      = .ok (bob, "default") := by rw [hmd]; rfl
  obtain ⟨rfl, rfl⟩ := Prod.mk.inj (Except.ok.inj (hbob.symm.trans hadm))
  exact absurd hcaller (by decide)

/-- Bob's `ExecutePlan` moves alice's operation to his backend, and his `ReleaseExecute` removes
it. -/
theorem bob_takes_over_operation :
    (tablesOf onePool [aliceExecutes]).ops "op-1" = some "be-a:15002" ∧
      (tablesOf onePool [aliceExecutes, bobExecutes "op-1"]).ops "op-1" = some "be-b:15002" ∧
      (tablesOf onePool [aliceExecutes, bobReleases]).ops "op-1" = none ∧
      ¬ OpEntriesKept onePool [aliceExecutes, bobExecutes "op-1"] ∧
      ¬ OpEntriesKept onePool [aliceExecutes, bobReleases] := by
  have hmoved : (tablesOf onePool [aliceExecutes, bobExecutes "op-1"]).ops "op-1"
      = some "be-b:15002" := by decide +kernel
  have hremoved : (tablesOf onePool [aliceExecutes, bobReleases]).ops "op-1" = none := by
    decide +kernel
  refine ⟨by decide +kernel, hmoved, hremoved, ?_, ?_⟩
  · refine not_opEntriesKept_of_lost rfl ?_
    intro hsame
    exact absurd (hmoved.symm.trans hsame) (by decide)
  · refine not_opEntriesKept_of_lost rfl ?_
    intro hsame
    cases hremoved.symm.trans hsame

end SparkGateway.Proofs.Handler
