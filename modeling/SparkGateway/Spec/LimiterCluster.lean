import SparkGateway.Lib.Interleave
import SparkGateway.Spec.RateLimit

/-!
# `SparkGateway.Spec.LimiterCluster`: `RedisLimiter::check` step by step

Many replicas share the buckets in Redis (`crates/ratelimit/src/redis.rs`), and each replica serves
many RPCs at a time. `RedisLimiter.check` of `Spec/RateLimit.lean` is one call by itself. Here the
same function is a program of the commands that others can come between: `current_time_ms`, the
lock of the replica's connection, and the `EVAL` of the script.

`take_one` reads the clock before it waits for the connection (`conn.lock().await`), and holds the
connection until the answer is there. The lock is a `tokio` mutex, which serves those who wait in
the order in which they came. `ConnLock` is that order as tickets: a call draws the next one, and
gets the connection when it is the turn of its ticket. A call can still execute its script long
after it has read the time, and after the script of a call of another replica that has read it
later.

An `EVAL` can be answered, fail without effect, or be executed with its reply lost. The script ends
with `EXPIRE`. When the lifetime of a bucket key ends depends on the clock of Redis, which is not
modelled here: any key may vanish at any time between the commands. `Spec/LimiterExpiry.lean` has
the lifetime of one key.
-/

set_option autoImplicit false

namespace SparkGateway.Spec

open SparkGateway.Lib

/-- What a `check` asks of the world. A replica is named by a number. -/
inductive LimiterCmd where
  /-- `current_time_ms`. -/
  | now
  /-- Stand in line for the connection of the replica. -/
  | queue (replica : ℕ)
  /-- Get the connection, when it is the turn of the ticket. -/
  | acquire (replica ticket : ℕ)
  /-- Invoke the script on a key. -/
  | eval (key : String) (rate : BucketRate) (nowMs : ℚ)
  /-- Drop the guard of the connection. -/
  | release (replica : ℕ)

/-- A place in the line is a ticket. The script answers whether it took a token; `none` is the
Redis error. -/
def LimiterCmd.Reply : LimiterCmd → Type
  | .now => ℚ
  | .queue _ => ℕ
  | .acquire _ _ => Unit
  | .eval _ _ _ => Option Bool
  | .release _ => Unit

/-- The commands of a `check`. -/
def LimiterSig : Sig := ⟨LimiterCmd, LimiterCmd.Reply⟩

namespace RedisLimiter

/-- `take_one` on the connection of a replica. -/
def takeOneSteps (replica : ℕ) (key : String) (rate : BucketRate) :
    Prog LimiterSig (Option Bool) :=
  .step (S := LimiterSig) .now fun nowMs =>
    .step (S := LimiterSig) (.queue replica) fun ticket =>
      .step (S := LimiterSig) (.acquire replica ticket) fun _ =>
        .step (S := LimiterSig) (.eval key rate nowMs) fun reply =>
          .step (S := LimiterSig) (.release replica) fun _ => .ret reply

/-- One bucket of `check`. -/
def checkBucketSteps (l : RedisLimiter) (replica : ℕ) (scope : RejectScope) (key : String)
    (rate : BucketRate) : Prog LimiterSig (Option Verdict) :=
  if rate.isEnabled then
    takeOneSteps replica key rate >>= fun
      | some true => pure none
      | some false => pure (some (.rejected scope))
      | none => pure l.handleRedisError
  else pure none

/-- `RedisLimiter::check`. -/
def checkSteps (l : RedisLimiter) (replica : ℕ) (tenant user : String) :
    Prog LimiterSig Verdict :=
  let limits := l.limits.limitsFor tenant
  if !limits.tenant.isEnabled && !limits.perUser.isEnabled then pure .admitted
  else
    l.checkBucketSteps replica .tenant (l.tenantKey tenant) limits.tenant >>= fun
      | some v => pure v
      | none =>
        l.checkBucketSteps replica .user (l.userKey tenant user) limits.perUser >>= fun
          | some v => pure v
          | none => pure .admitted

/-- The answers of a world in which one call runs alone: its readings of the clock, a connection
that is free, and the fates of its executions. The flag says whether the tenant's bucket has been
asked. -/
def soloHandler (faultT faultU : EvalFault) (now : Clock) : Handler LimiterSig (Db × Bool)
  | .now, (db, asked) => (if asked then now.userTake else now.tenantTake, (db, asked))
  | .queue _, s => ((0 : ℕ), s)
  | .acquire _ _, s => ((), s)
  | .eval key rate nowMs, (db, asked) =>
      let r := takeOne (if asked then faultU else faultT) key rate nowMs db
      (r.1, (r.2, true))
  | .release _, s => ((), s)

/-- One bucket of a call that runs alone. -/
theorem checkBucketSteps_solo (l : RedisLimiter) (replica : ℕ) (faultT faultU : EvalFault)
    (now : Clock) (scope : RejectScope) (key : String) (rate : BucketRate) (db : Db)
    (asked : Bool) :
    let o := (l.checkBucketSteps replica scope key rate).exec (soloHandler faultT faultU now)
      (db, asked)
    let r := l.checkBucket scope (if asked then faultU else faultT) key rate
      (if asked then now.userTake else now.tenantTake) db
    o.value = r.1 ∧ o.state = (r.2, asked || rate.isEnabled) := by
  unfold checkBucketSteps checkBucket
  cases rate.isEnabled with
  | false => exact ⟨rfl, by rw [Bool.or_false]; rfl⟩
  | true =>
    simp only [if_true, Prog.exec_bind, Bool.or_true]
    -- The five steps of a `take_one` alone are the take itself.
    have hvalue : ((takeOneSteps replica key rate).exec (soloHandler faultT faultU now)
        (db, asked)).value = (takeOne (if asked then faultU else faultT) key rate
          (if asked then now.userTake else now.tenantTake) db).1 := rfl
    have hstate : ((takeOneSteps replica key rate).exec (soloHandler faultT faultU now)
        (db, asked)).state = ((takeOne (if asked then faultU else faultT) key rate
          (if asked then now.userTake else now.tenantTake) db).2, true) := rfl
    rw [hvalue, hstate]
    rcases takeOne (if asked then faultU else faultT) key rate
      (if asked then now.userTake else now.tenantTake) db with ⟨_ | _ | _, db'⟩ <;>
      exact ⟨rfl, rfl⟩

/-- A call that runs alone is `check`. -/
theorem checkSteps_solo (l : RedisLimiter) (replica : ℕ) (faultT faultU : EvalFault) (now : Clock)
    (tenant user : String) (db : Db) :
    let o := (l.checkSteps replica tenant user).exec (soloHandler faultT faultU now)
      (db, !(l.limits.limitsFor tenant).tenant.isEnabled)
    (o.value, o.state.1) = l.check faultT faultU now tenant user db := by
  have hbucket := l.checkBucketSteps_solo replica faultT faultU now
  -- A disabled bucket needs no reading of the clock, so that the user's is the first then.
  have htenant : ∀ key rate, l.checkBucket .tenant (if !rate.isEnabled then faultU else faultT) key
      rate (if !rate.isEnabled then now.userTake else now.tenantTake) db
        = l.checkBucket .tenant faultT key rate now.tenantTake db := by
    intro key rate
    unfold checkBucket
    cases rate.isEnabled <;> rfl
  unfold checkSteps check
  dsimp only
  split
  · rfl
  · obtain ⟨hvalue, hstate⟩ := hbucket .tenant (l.tenantKey tenant)
      (l.limits.limitsFor tenant).tenant db (!(l.limits.limitsFor tenant).tenant.isEnabled)
    rw [htenant] at hvalue hstate
    rw [Prog.exec_bind]
    dsimp only
    rw [hvalue, hstate, Bool.not_or_self]
    rcases l.checkBucket .tenant faultT (l.tenantKey tenant) (l.limits.limitsFor tenant).tenant
      now.tenantTake db with ⟨_ | v, db'⟩
    · obtain ⟨hvalue, hstate⟩ := hbucket .user (l.userKey tenant user)
        (l.limits.limitsFor tenant).perUser db' true
      dsimp only
      rw [Prog.exec_bind]
      dsimp only
      rw [hvalue, hstate]
      simp only [if_true]
      rcases l.checkBucket .user faultU (l.userKey tenant user)
        (l.limits.limitsFor tenant).perUser now.userTake db' with ⟨_ | v, db''⟩ <;> rfl
    · rfl

end RedisLimiter

/-- The lock of a connection: the next ticket, and the one whose turn it is. -/
structure ConnLock where
  next : ℕ
  serving : ℕ

/-- The buckets in Redis, the time, and the lock of each replica's connection. -/
structure ClusterState where
  db : RedisLimiter.Db
  clock : ℚ
  locks : ℕ → ConnLock

namespace ClusterState

/-- No buckets, and no connection in use. -/
def fresh (clock : ℚ) : ClusterState := ⟨fun _ => none, clock, fun _ => ⟨0, 0⟩⟩

/-- A call draws a ticket. -/
def drawTicket (s : ClusterState) (replica : ℕ) : ClusterState :=
  let lock := s.locks replica
  { s with locks := Function.update s.locks replica ⟨lock.next + 1, lock.serving⟩ }

/-- The connection goes to the next in line. -/
def handOver (s : ClusterState) (replica : ℕ) : ClusterState :=
  let lock := s.locks replica
  { s with locks := Function.update s.locks replica ⟨lock.next, lock.serving + 1⟩ }

end ClusterState

/-- What the commands do when a replica reads `r` at the time `t` only if `reads t r`. Between the
commands time passes, and bucket keys expire. -/
def clusterSemantics (reads : ℚ → ℚ → Prop) : Semantics LimiterSig ClusterState where
  cmd
    | .now, s, r, s' => reads s.clock r ∧ s' = s
    | .queue replica, s, ticket, s' => ticket = (s.locks replica).next ∧ s' = s.drawTicket replica
    | .acquire replica ticket, s, _, s' => ticket = (s.locks replica).serving ∧ s' = s
    | .eval key rate nowMs, s, r, s' => ∃ fault,
        (r, s') = ((RedisLimiter.takeOne fault key rate nowMs s.db).1,
          { s with db := (RedisLimiter.takeOne fault key rate nowMs s.db).2 })
    | .release replica, s, _, s' => s' = s.handOver replica
  env s s' := s.clock ≤ s'.clock ∧ (∀ key, s'.db key = s.db key ∨ s'.db key = none) ∧
    s'.locks = s.locks

/-- Replicas whose clocks are accurate. -/
def accurate (clock reading : ℚ) : Prop := reading = clock

/-- The answers of the cluster at a time when the clock stands still, without faults, to calls that
ask for the connection when it is their turn. -/
def clusterHandler : Handler LimiterSig ClusterState
  | .now, s => (s.clock, s)
  | .queue replica, s => ((s.locks replica).next, s.drawTicket replica)
  | .acquire _ _, s => ((), s)
  | .eval key rate nowMs, s =>
      let r := RedisLimiter.takeOne .none key rate nowMs s.db
      (r.1, { s with db := r.2 })
  | .release replica, s => ((), s.handOver replica)

/-- One `check` call: the limiter of the replica that serves it, the replica, the tenant and the
user. -/
structure CheckCall where
  limiter : RedisLimiter
  replica : ℕ
  tenant : String
  user : String

/-- The calls at their start. -/
def cluster {ι : Type} (call : ι → CheckCall) (s : ClusterState) :
    Config LimiterSig ClusterState ι Verdict :=
  ⟨s, fun i => (call i).limiter.checkSteps (call i).replica (call i).tenant (call i).user⟩

end SparkGateway.Spec
