import SparkGateway.Spec.Process
import SparkGateway.Spec.Serving

/-!
# `SparkGateway.Spec.Shutdown`: readiness, the drain, and the process around the RPCs

`main` (`crates/gateway/src/main.rs`) spawns a task that waits for SIGTERM or SIGINT. It then marks
the process not ready, so that `/readyz` answers 503, and waits until `scg_active_streams` is zero,
with a look every 200 ms, but not longer than the drain deadline. At last it tells the two servers
to stop. `DrainTask` is where this task stands.

The wait is `tokio::time::timeout` around a loop. A poll of it first polls the loop, and looks at
the deadline only if the loop still waits: a gauge that is zero at the deadline counts as drained.

The servers accept RPCs until they are told to stop, so RPCs begin during the drain as well.

`ServerState` is a process with this task, and `serverSemantics` lets the task, the signal, the
clock and the pools move between the steps of the RPCs. Times are in milliseconds.
-/

set_option autoImplicit false

namespace SparkGateway.Spec

open SparkGateway.Lib

/-! ### The admin endpoints -/

/-- The methods the admin server tells apart. -/
inductive HttpMethod where
  | get
  | other
deriving DecidableEq, Repr

/-- An answer of the admin server. -/
structure HttpResponse where
  status : ℕ
  body : String
deriving DecidableEq, Repr

/-- `handle` of the admin server. `metrics` is what `render_metrics` returns. -/
def adminHandle (method : HttpMethod) (path : String) (metrics : HttpResponse) (ready : Bool) :
    HttpResponse :=
  match method, path with
  | .get, "/metrics" => metrics
  | .get, "/healthz" => ⟨200, "ok"⟩
  | .get, "/readyz" => if ready then ⟨200, "ready"⟩ else ⟨503, "not ready"⟩
  | _, _ => ⟨404, "not found"⟩

/-! ### The drain -/

/-- How long the loop sleeps between two looks at the gauge. -/
def drainPoll : ℕ := 200

/-- Where the shutdown task stands. -/
inductive DrainTask where
  /-- `shutdown_signal().await` -/
  | awaitSignal
  | signalled
  | notReady
  /-- The loop is about to read the gauge. -/
  | polling (deadline : ℕ)
  /-- The loop sleeps until `wake`. -/
  | sleeping (deadline wake : ℕ)
  /-- The wait is over. -/
  | reporting (drained : Bool)
  | stopping (drained : Bool) (finalActive : ℤ)
  /-- `shutdown_tx` is sent. -/
  | stopped (drained : Bool) (finalActive : ℤ)
deriving DecidableEq, Repr

/-- The next step of the task once the process is not ready, at the time `now` and with the gauge at
`active`. `none` if it waits. -/
def DrainTask.next (deadlineMs now : ℕ) (active : ℤ) : DrainTask → Option DrainTask
  | .notReady => some (.polling (now + deadlineMs))
  | .polling deadline =>
      some (if active ≤ 0 then .reporting true else .sleeping deadline (now + drainPoll))
  | .sleeping deadline wake =>
      if wake ≤ now then some (.polling deadline)
      else if deadline ≤ now then some (.reporting false)
      else none
  | .reporting drained => some (.stopping drained active)
  | .stopping drained finalActive => some (.stopped drained finalActive)
  | .awaitSignal | .signalled | .stopped _ _ => none

/-! ### The process -/

/-- The serving process: what its handlers share, the gauge, the readiness flag, the shutdown task
and the clock in milliseconds. -/
structure ServerState (P : PoolId → PoolModel) where
  process : ProcessState P
  activeStreams : ℤ
  ready : Bool
  drain : DrainTask
  time : ℕ

section
variable {P : PoolId → PoolModel}

/-- What moves besides the RPCs. -/
inductive ServerMove (limits : LimiterConfig) (deadlineMs : ℕ) (s : ServerState P) :
    ServerState P → Prop where
  | pool {p} : (processSemantics P limits).env s.process p →
      ServerMove limits deadlineMs s { s with process := p }
  | tick : ServerMove limits deadlineMs s { s with time := s.time + 1 }
  | signal : s.drain = .awaitSignal → ServerMove limits deadlineMs s { s with drain := .signalled }
  | markNotReady : s.drain = .signalled →
      ServerMove limits deadlineMs s { s with drain := .notReady, ready := false }
  | drain {d} : s.drain.next deadlineMs s.time s.activeStreams = some d →
      ServerMove limits deadlineMs s { s with drain := d }

/-- What the commands of the served RPCs do in a process that drains for at most `deadlineMs`. -/
def serverSemantics (P : PoolId → PoolModel) (limits : LimiterConfig) (deadlineMs : ℕ) :
    Semantics (ServeSig MemorySig) (ServerState P) where
  cmd
    | .inl c, s, r, s' =>
        ∃ p, (processSemantics P limits).cmd c s.process r p ∧ s' = { s with process := p }
    | .inr .suspend, s, _, s' => s' = s
    | .inr .inc, s, _, s' => s' = { s with activeStreams := s.activeStreams + 1 }
    | .inr .dec, s, _, s' => s' = { s with activeStreams := s.activeStreams - 1 }
  env := ServerMove limits deadlineMs

/-- The answers of a process in the outside world `env`. `resumed` says whether a future that waits
is polled again. -/
def serverHandler (P : PoolId → PoolModel) (limits : LimiterConfig) (env : Env) (resumed : Bool) :
    Handler (ServeSig MemorySig) (ServerState P)
  | .inl c, s =>
      let r := processHandler P limits env c s.process
      (r.1, { s with process := r.2 })
  | .inr .suspend, s => (resumed, s)
  | .inr .inc, s => ((), { s with activeStreams := s.activeStreams + 1 })
  | .inr .dec, s => ((), { s with activeStreams := s.activeStreams - 1 })

/-- The handler that runs one RPC alone answers as the server allows. -/
theorem serverHandler_allowed (P : PoolId → PoolModel) (limits : LimiterConfig) (deadlineMs : ℕ)
    (env : Env) (resumed : Bool) (c : (ServeSig MemorySig).Cmd) (s : ServerState P) :
    (serverSemantics P limits deadlineMs).cmd c s (serverHandler P limits env resumed c s).1
      (serverHandler P limits env resumed c s).2 := by
  rcases c with c | c
  · exact ⟨_, processHandler_allowed P limits env c s.process, rfl⟩
  · cases c <;> rfl

/-- A process that has just started to serve. -/
def ServerState.start (p : ProcessState P) : ServerState P := ⟨p, 0, true, .awaitSignal, 0⟩

/-- Some RPCs at their start, in a process with the state `s`. -/
def server {ι : Type} (gw : Gateway MemorySig) (rpc : ι → Rpc) (s : ServerState P) :
    Config (ServeSig MemorySig) (ServerState P) ι (Option (Except Status Response)) :=
  ⟨s, fun i => gw.serve (rpc i)⟩

end

end SparkGateway.Spec
