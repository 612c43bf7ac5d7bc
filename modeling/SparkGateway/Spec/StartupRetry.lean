import SparkGateway.Lib.Loop
import SparkGateway.Spec.Oidc

/-!
# `SparkGateway.Spec.StartupRetry`: the retry of a Redis connection at startup

`retry_with_budget` and `retry_redis_connect` of `crates/gateway/src/main.rs`. The loop calls
`connect` until it succeeds, or until it fails at or after the deadline, and sleeps between two
calls. It has no bound on the number of calls.

Time is in nanoseconds. The world says for each call of `connect` how long it takes and how it
ends, and how much longer than asked the task sleeps after it. The loop keeps the calls that it
has made, with their times. The counter of the source is a `u32`, which wraps around; it is used in
the text of the error only.
-/

set_option autoImplicit false

namespace SparkGateway.Spec

open Lib

/-- One call of `connect`, and the sleep after it. -/
structure Attempt (T E : Type) where
  duration : ℕ
  outcome : Except E T
  overrun : ℕ

/-- A call of `connect` that was made. -/
structure ConnectCall (T E : Type) where
  started : ℕ
  ended : ℕ
  outcome : Except E T

/-- The variables of the loop, and the calls so far. -/
structure RetryState (T E : Type) where
  now : ℕ
  attempt : UInt32
  calls : List (ConnectCall T E)

/-- What the loop returns, and the calls it made. -/
structure RetryRun (T E : Type) where
  result : Except String T
  calls : List (ConnectCall T E)

/-- How the texts of the error are formatted: the seconds of a duration without decimals, and the
error of `connect`. -/
structure RetryFormat (E : Type) where
  seconds : ℕ → String
  display : E → String

section
variable {T E : Type} (format : RetryFormat E) (world : ℕ → Attempt T E) (target : String)
  (budget interval : ℕ)

/-- The text of the error when the budget is used up. -/
def retryError (attempt : UInt32) (e : E) : String :=
  "connecting to " ++ target ++ " failed after " ++ toString attempt ++ " attempts ("
    ++ format.seconds budget ++ "s): " ++ format.display e

/-- The body of the loop. -/
def retryBody (deadline : ℕ) (s : RetryState T E) : RetryRun T E ⊕ RetryState T E :=
  let attempt := s.attempt + 1
  let reply := world s.calls.length
  let now := s.now + reply.duration
  let calls := s.calls ++ [⟨s.now, now, reply.outcome⟩]
  match reply.outcome with
  | .ok v => .inl ⟨.ok v, calls⟩
  | .error e =>
    if now ≥ deadline then .inl ⟨.error (retryError format target budget attempt e), calls⟩
    else .inr ⟨now + interval + reply.overrun, attempt, calls⟩

/-- `retry_with_budget`, called at the time `start`, for at most `fuel` iterations. -/
def retryWithBudget (start fuel : ℕ) : Option (RetryRun T E) :=
  let deadline := start + budget
  loop (retryBody format world target budget interval deadline) fuel ⟨start, 0, []⟩

end

/-! ### The settings of the gateway -/

/-- `STARTUP_REDIS_RETRY_BUDGET`. -/
def startupRedisRetryBudget : ℕ := fromSecs 60

/-- `STARTUP_REDIS_RETRY_INTERVAL`. -/
def startupRedisRetryInterval : ℕ := fromSecs 2

/-- `retry_redis_connect`. -/
def retryRedisConnect {T E : Type} (format : RetryFormat E) (world : ℕ → Attempt T E)
    (target : String) (start fuel : ℕ) : Option (RetryRun T E) :=
  retryWithBudget format world target startupRedisRetryBudget startupRedisRetryInterval start fuel

end SparkGateway.Spec
