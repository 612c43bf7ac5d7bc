import SparkGateway.Lib.Interleave
import SparkGateway.Spec.HealthCheck
import SparkGateway.Spec.K8sPool
import SparkGateway.Spec.Sequential
import SparkGateway.Spec.StaticPool

/-!
# `SparkGateway.Spec.Process`: the handlers of one gateway process

A gateway process (`crates/gateway/src/main.rs`) handles many RPCs at a time. Its handlers share
the affinity store, the rate limiter and the pools. `ProcessState` is this shared state for a
`MemoryStore` and a `MemoryLimiter`, and `processSemantics` says what each command of a handler
does to it. The store and the limiter do each operation under one lock, and a pool moves its
cursor with one atomic addition, so each of them is one step.

A pool enters by its `pick` and by what changes it from the outside (`PoolModel`): a static pool
does not change, the Kubernetes pool changes when its watcher handles an item of the stream that
the API server sends to it, and a pool that is wrapped for health checks changes with the inner
pool and with each round of probes.

The limiter reads the clock twice within one `check`. The process has one clock that never goes
back, so the readings of one `check` are not before those of an earlier one.

The authenticator, the backends, the dialer, the audit log and the metrics can answer anything.
-/

set_option autoImplicit false

namespace SparkGateway.Spec

open SparkGateway.Lib

/-- An implementation of the `Pool` trait: `pick`, `all_healthy`, and the steps of its background
task. -/
structure PoolModel where
  State : Type
  pick : State → Option String × State
  allHealthy : State → List String
  moves : State → State → Prop

namespace PoolModel

/-- A `StaticPool` has no background task. -/
def static : PoolModel := ⟨StaticPool, StaticPool.pick, StaticPool.allHealthy, fun _ _ => False⟩

/-- The watcher of a `K8sPool` handles one item of its stream after another. -/
def k8s (stream : WatcherItem → Prop) (targetPort : UInt16) : PoolModel where
  State := K8sPool
  pick := K8sPool.pick
  allHealthy := K8sPool.allHealthy
  moves pool pool' := ∃ item, stream item ∧ pool' = pool.onEvent targetPort item

/-- `wrap_with_healthcheck` around an inner pool. The list of a round was read at its start, so it
need not be the current one. -/
def healthAware (cfg : HealthCheckConfig) (inner : PoolModel) : PoolModel where
  State := HealthAwarePool × inner.State
  pick s :=
    let r := s.1.pick (inner.allHealthy s.2)
    (r.1, (r.2, s.2))
  allHealthy s := s.1.allHealthy (inner.allHealthy s.2)
  moves s s' :=
    (∃ round, s' = (s.1.probeAll cfg round, s.2)) ∨
      ∃ q, inner.moves s.2 q ∧ s' = (s.1, q)

end PoolModel

/-- Every pool is a `StaticPool`. -/
abbrev staticPools : PoolId → PoolModel := fun _ => .static

/-- What the handlers of a process share. -/
structure ProcessState (P : PoolId → PoolModel) where
  store : MemoryStore.State
  limiter : MemoryLimiter.State
  pools : (pool : PoolId) → (P pool).State
  clock : ℚ

namespace ProcessState

variable {P : PoolId → PoolModel}

/-- A process that has just started, with its pools as given. -/
def fresh (pools : (pool : PoolId) → (P pool).State) : ProcessState P :=
  ⟨MemoryStore.new, fun _ => none, pools, 0⟩

/-- A pick from one of the pools. -/
def pick (pool : PoolId) (s : ProcessState P) : Option String × ProcessState P :=
  let r := (P pool).pick (s.pools pool)
  (r.1, { s with pools := Function.update s.pools pool r.2 })

/-- An access of the store. -/
def access (c : MemoryCmd) (s : ProcessState P) : MemoryCmd.Reply c × ProcessState P :=
  let r := MemoryStore.apply c s.store
  (r.1, { s with store := r.2 })

/-- A `check` of the limiter at some clock readings. -/
def check (limits : LimiterConfig) (now : Clock) (tenant user : String) (s : ProcessState P) :
    Verdict × ProcessState P :=
  let r := MemoryLimiter.check limits now tenant user s.limiter
  (r.1, { s with limiter := r.2, clock := now.userTake })

end ProcessState

/-- What the commands of a handler do in a process. -/
def processSemantics (P : PoolId → PoolModel) (limits : LimiterConfig) :
    Semantics (GatewaySig MemorySig) (ProcessState P) where
  cmd
    | .inl (.inl (.pick pool)), s, r, s' => s.pick pool = (r, s')
    | .inl (.inr c), s, r, s' => s.access c = (r, s')
    | .inr (.check tenant user), s, r, s' =>
        ∃ now : Clock, s.clock ≤ now.tenantTake ∧ now.tenantTake ≤ now.userTake ∧
          s.check limits now tenant user = (r, s')
    | .inr _, s, _, s' => s' = s
  env s s' := ∃ pool q, (P pool).moves (s.pools pool) q ∧
    s' = { s with pools := Function.update s.pools pool q }

/-- The answers of a process in the outside world `env`, at a time when its clock stands still. -/
def processHandler (P : PoolId → PoolModel) (limits : LimiterConfig) (env : Env) :
    Handler (GatewaySig MemorySig) (ProcessState P)
  | .inl (.inl (.pick pool)), s => s.pick pool
  | .inl (.inr c), s => s.access c
  | .inr (.check tenant user), s => s.check limits ⟨s.clock, s.clock⟩ tenant user
  | .inr c, s => proxyHandler env c s

/-- The handler that runs one RPC alone answers as the process allows. -/
theorem processHandler_allowed (P : PoolId → PoolModel) (limits : LimiterConfig) (env : Env)
    (c : (GatewaySig MemorySig).Cmd) (s : ProcessState P) :
    (processSemantics P limits).cmd c s (processHandler P limits env c s).1
      (processHandler P limits env c s).2 := by
  rcases c with (c | c) | c
  · cases c
    rfl
  · rfl
  · cases c with
    | check tenant user => exact ⟨⟨s.clock, s.clock⟩, le_refl _, le_refl _, rfl⟩
    | _ => rfl

/-- The handlers of some RPCs at their start, in a process with the state `s`. -/
def process {P : PoolId → PoolModel} {ι : Type} (gw : Gateway MemorySig) (rpc : ι → Rpc)
    (s : ProcessState P) :
    Config (GatewaySig MemorySig) (ProcessState P) ι (Except Status Response) :=
  ⟨s, fun i => gw.handle (rpc i)⟩

end SparkGateway.Spec
