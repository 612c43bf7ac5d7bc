import Mathlib.Logic.Function.Basic
import SparkGateway.Spec.Grpc

/-!
# `SparkGateway.Spec.HealthCheck`: the pool with active health probes

`HealthAwarePool` (`crates/healthcheck`) wraps a pool. A background task probes the backends that
the inner pool lists, one round after another, and keeps a status for each of them: healthy or
not, and one counter for the failures or successes in a row that would change that. `pick` and
`all_healthy` serve what the inner pool lists, without the backends that are unhealthy.

The inner pool enters through the list that it returns at the time. The probes of a round run in
parallel and their results are applied in the order of the list, under one write lock.
-/

set_option autoImplicit false

namespace SparkGateway.Spec

/-- `u32::saturating_add`. -/
def saturatingAdd (x y : UInt32) : UInt32 :=
  if x.toNat + y.toNat < UInt32.size then x + y else UInt32.ofNat (UInt32.size - 1)

/-- `HealthCheckConfig`, its thresholds. -/
structure HealthCheckConfig where
  unhealthyThreshold : UInt32 := 3
  healthyThreshold : UInt32 := 2
deriving DecidableEq, Repr

/-- `HealthState` of one backend. -/
inductive HealthState where
  | healthy
  | unhealthy
deriving DecidableEq, Repr

/-- `BackendStatus`. While healthy, `streak` counts failures in a row; while unhealthy,
successes. -/
structure BackendStatus where
  state : HealthState
  streak : UInt32
deriving DecidableEq, Repr

/-- `BackendStatus::fresh`: a new backend is presumed healthy. -/
def BackendStatus.fresh : BackendStatus := ⟨.healthy, 0⟩

/-! ### Probes -/

/-- How the probe of a backend ended: its address is no URL, it did not connect, or
`Health.Check` answered with a serving status or failed. -/
inductive ProbeReply where
  | invalidUrl
  | connectFailed
  | checked (status : Int32)
  | failed (code : Code)
deriving DecidableEq, Repr

/-- `ServingStatus::Serving as i32`. -/
def serving : Int32 := 1

/-- `probe_one`: whether the backend passes. One without the health service does. -/
def probeOne : ProbeReply → Bool
  | .invalidUrl => false
  | .connectFailed => false
  | .checked status => status == serving
  | .failed .notFound => true
  | .failed .unimplemented => true
  | .failed _ => false

/-- `apply_probe`: update a status by the outcome of a probe. -/
def applyProbe (cfg : HealthCheckConfig) (status : BackendStatus) (ok : Bool) : BackendStatus :=
  match status.state, ok with
  | .healthy, true => { status with streak := 0 }
  | .healthy, false =>
    let streak := saturatingAdd status.streak 1
    if streak ≥ cfg.unhealthyThreshold then ⟨.unhealthy, 0⟩ else { status with streak }
  | .unhealthy, true =>
    let streak := saturatingAdd status.streak 1
    if streak ≥ cfg.healthyThreshold then ⟨.healthy, 0⟩ else { status with streak }
  | .unhealthy, false => { status with streak := 0 }

/-- One round of probes: the list of the inner pool, each backend with how its probe ended. The
task of a probe may also fail to join, and then there is no result. -/
abbrev ProbeRound := List (String × Option ProbeReply)

namespace ProbeRound

/-- `inner.all_healthy()` at the start of the round. -/
def backends (round : ProbeRound) : List String := round.map Prod.fst

/-- The results of the tasks that joined, in the order of the list. -/
def results (round : ProbeRound) : List (String × Bool) :=
  round.filterMap fun (addr, reply) => reply.map fun reply => (addr, probeOne reply)

end ProbeRound

/-! ### The pool -/

/-- `HealthAwarePool`: the status map and the round-robin cursor. -/
structure HealthAwarePool where
  statuses : String → Option BackendStatus
  cursor : UInt64

namespace HealthAwarePool

/-- `HealthAwarePool::new`: no state recorded, the cursor at zero. -/
def new : HealthAwarePool := ⟨fun _ => none, 0⟩

/-- One result of a round: the entry of the backend is updated, or made and updated. -/
def applyResult (cfg : HealthCheckConfig) (statuses : String → Option BackendStatus) :
    String × Bool → String → Option BackendStatus
  | (addr, ok) =>
    Function.update statuses addr
      (some (applyProbe cfg ((statuses addr).getD BackendStatus.fresh) ok))

/-- `probe_all`. A round without backends clears the map. Otherwise the entries of backends that
are not listed any more are dropped, and the results applied. -/
def probeAll (cfg : HealthCheckConfig) (round : ProbeRound) (pool : HealthAwarePool) :
    HealthAwarePool :=
  if round.backends.isEmpty then { pool with statuses := fun _ => none }
  else
    let retained := fun addr => if addr ∈ round.backends then pool.statuses addr else none
    { pool with statuses := round.results.foldl (applyResult cfg) retained }

/-- `healthy_snapshot`: what the inner pool lists now, without the unhealthy backends. A backend
without an entry counts as healthy. -/
def healthySnapshot (pool : HealthAwarePool) (inner : List String) : List String :=
  inner.filter fun addr =>
    match pool.statuses addr with
    | some status => status.state != .unhealthy
    | none => true

/-- `Pool::pick`. The cursor moves only if there is a backend, and wraps around. -/
def pick (pool : HealthAwarePool) (inner : List String) : Option String × HealthAwarePool :=
  let healthy := pool.healthySnapshot inner
  if healthy.isEmpty then (none, pool)
  else
    let idx := pool.cursor
    (healthy[idx.toNat % healthy.length]?, { pool with cursor := idx + 1 })

/-- `Pool::all_healthy`. -/
def allHealthy (pool : HealthAwarePool) (inner : List String) : List String :=
  pool.healthySnapshot inner

/-- `Pool::mark_unhealthy`: a hint of the handler that primes the streak of a healthy backend. It
is passed on to the inner pool. -/
def markUnhealthy (pool : HealthAwarePool) (addr : String) : HealthAwarePool :=
  match pool.statuses addr with
  | some status =>
    if status.state == .healthy then
      let primed := { status with streak := saturatingAdd status.streak 1 }
      { pool with statuses := Function.update pool.statuses addr (some primed) }
    else pool
  | none => pool

end HealthAwarePool

/-! ### Histories of calls -/

/-- A call that changes the pool. `pick` has the list of the inner pool at the time. -/
inductive PoolCall where
  | probeAll (round : ProbeRound)
  | pick (inner : List String)
  | markUnhealthy (addr : String)

namespace HealthAwarePool

/-- One call. -/
def call (cfg : HealthCheckConfig) (pool : HealthAwarePool) : PoolCall → HealthAwarePool
  | .probeAll round => pool.probeAll cfg round
  | .pick inner => (pool.pick inner).2
  | .markUnhealthy addr => pool.markUnhealthy addr

/-- The pool after a history of calls. -/
def after (cfg : HealthCheckConfig) (calls : List PoolCall) : HealthAwarePool :=
  calls.foldl (call cfg) new

end HealthAwarePool

end SparkGateway.Spec
