import Mathlib.Algebra.Order.Field.Rat
import Mathlib.Data.Rat.Floor
import Mathlib.Logic.Function.Basic
import SparkGateway.Spec.Grpc

/-!
# `SparkGateway.Spec.RateLimit`: the two rate limiters

`crates/ratelimit/src/lib.rs` and `crates/ratelimit/src/redis.rs`, with token amounts and
times as exact rationals. A limiter state is a map from keys to buckets: nested maps for
the in-memory limiter, one flat key space for Redis. Both `check` functions take the
tenant bucket first and the user bucket second, and both are written here as functions
from the state before to the verdict and the state after.

Each bucket take reads the clock by itself, so `check` has two readings (`Clock`). A fresh
bucket is full, and its first take refills nothing, so the reading inside `Bucket::new` is
not separate.
-/

set_option autoImplicit false

namespace SparkGateway.Spec

/-- Configuration of one bucket: RPCs per second, and the capacity. -/
structure BucketRate where
  rpcsPerSecond : ℚ
  burst : ℕ
deriving DecidableEq

namespace BucketRate

/-- `BucketRate::disabled`. -/
def disabled : BucketRate := ⟨0, 0⟩

/-- `BucketRate::is_enabled`. -/
def isEnabled (r : BucketRate) : Bool := decide (r.rpcsPerSecond > 0) && decide (r.burst > 0)

end BucketRate

/-- The tenant bucket's and the user bucket's configuration for one tenant. -/
structure TenantLimits where
  tenant : BucketRate
  perUser : BucketRate
deriving DecidableEq

/-- `TenantLimits::default`: neither bucket is in force. -/
def TenantLimits.default : TenantLimits := ⟨.disabled, .disabled⟩

/-- The bucket that rejected an RPC. -/
inductive RejectScope where
  | tenant
  | user
deriving DecidableEq, Repr

/-- What `check` answers. `rejected` also notifies the observer with its scope. -/
inductive Verdict where
  | admitted
  | rejected (scope : RejectScope)
  | unavailable
deriving DecidableEq, Repr

/-- The `Result<(), Status>` a verdict stands for. -/
def Verdict.toResult (tenant user : String) : Verdict → Except Status Unit
  | .admitted => .ok ()
  | .rejected .tenant =>
      .error (.resourceExhausted ("tenant " ++ debugStr tenant ++ " rate limit exceeded"))
  | .rejected .user =>
      .error (.resourceExhausted ("user " ++ debugStr user ++ " rate limit exceeded (tenant "
        ++ debugStr tenant ++ ")"))
  | .unavailable => .error (.resourceExhausted "rate limiter unavailable (fail-closed)")

/-- The clock readings of the two takes of one `check`. -/
structure Clock where
  tenantTake : ℚ
  userTake : ℚ

/-- Per-tenant configuration: overrides by tenant name, and the fallback. -/
structure LimiterConfig where
  overrides : String → Option TenantLimits
  default : TenantLimits

/-- The limits of a tenant. -/
def LimiterConfig.limitsFor (cfg : LimiterConfig) (tenant : String) : TenantLimits :=
  (cfg.overrides tenant).getD cfg.default

/-- No tenant has a limit. -/
def LimiterConfig.unlimited : LimiterConfig := ⟨fun _ => none, .default⟩

/-! ### The in-memory limiter -/

/-- One token-bucket instance. -/
structure Bucket where
  ratePerSecond : ℚ
  capacity : ℚ
  tokens : ℚ
  lastRefill : ℚ
deriving DecidableEq

namespace Bucket

/-- A bucket starts full. -/
def new (cfg : BucketRate) (now : ℚ) : Bucket where
  ratePerSecond := cfg.rpcsPerSecond
  capacity := cfg.burst
  tokens := cfg.burst
  lastRefill := now

/-- Refill for the time since the last refill, then take one token if there is one.
`Instant::duration_since` of a later instant is zero. -/
def tryTake (b : Bucket) (now : ℚ) : Bool × Bucket :=
  let elapsed := max 0 (now - b.lastRefill)
  let tokens := min (b.tokens + elapsed * b.ratePerSecond) b.capacity
  if tokens ≥ 1 then
    (true, { b with tokens := tokens - 1, lastRefill := now })
  else
    -- The refill is kept when there is no token to take.
    (false, { b with tokens := tokens, lastRefill := now })

end Bucket

/-- The live state of one tenant. -/
structure TenantState where
  tenantBucket : Bucket
  userBuckets : String → Option Bucket

namespace MemoryLimiter

/-- The live state of the limiter, by tenant. -/
abbrev State := String → Option TenantState

/-- `MemoryLimiter::check`. The whole function runs under the state lock. -/
def check (cfg : LimiterConfig) (now : Clock) (tenant user : String) (state : State) :
    Verdict × State :=
  let limits := cfg.limitsFor tenant
  if !limits.tenant.isEnabled && !limits.perUser.isEnabled then (.admitted, state)
  else
    let entry := (state tenant).getD ⟨Bucket.new limits.tenant now.tenantTake, fun _ => none⟩
    -- `limits.tenant.is_enabled() && !try_take()`: a disabled bucket is not touched.
    let taken :=
      if limits.tenant.isEnabled then entry.tenantBucket.tryTake now.tenantTake
      else (true, entry.tenantBucket)
    let entry := { entry with tenantBucket := taken.2 }
    if !taken.1 then (.rejected .tenant, Function.update state tenant (some entry))
    else if limits.perUser.isEnabled then
      -- The tenant's token is taken by now, and a rejection below does not put it back.
      let bucket := (entry.userBuckets user).getD (Bucket.new limits.perUser now.userTake)
      let taken := bucket.tryTake now.userTake
      let entry := { entry with
        userBuckets := Function.update entry.userBuckets user (some taken.2) }
      let state := Function.update state tenant (some entry)
      if !taken.1 then (.rejected .user, state) else (.admitted, state)
    else (.admitted, Function.update state tenant (some entry))

end MemoryLimiter

/-! ### The Redis limiter -/

/-- The hash a bucket key holds. -/
structure RedisBucket where
  tokens : ℚ
  ts : ℚ
deriving DecidableEq

/-- `TOKEN_BUCKET_SCRIPT`: one atomic execution on a key that holds `data`. Returns whether
a token was taken, and the hash it stores. The time of the last refill is overwritten with
`nowMs` in every case. -/
def tokenBucketScript (rate capacity nowMs : ℚ) (data : Option RedisBucket) :
    Bool × RedisBucket :=
  let tokens := match data with
    | some b => b.tokens
    | none => capacity
  let lastMs := match data with
    | some b => b.ts
    | none => nowMs
  let elapsedS := max 0 ((nowMs - lastMs) / 1000)
  let tokens := min capacity (tokens + elapsedS * rate)
  if tokens ≥ 1 then (true, ⟨tokens - 1, nowMs⟩) else (false, ⟨tokens, nowMs⟩)

/-- Behaviour when Redis is unreachable. -/
inductive FailMode where
  | openMode
  | closedMode
deriving DecidableEq, Repr

/-- The fate of one `EVAL`: answered, failed without effect, or executed with its reply
lost. -/
inductive EvalFault where
  | none
  | failed
  | replyLost
deriving DecidableEq, Repr

/-- `RedisLimiterConfig` with the per-tenant configuration. The URL does not enter the decision,
and the key lifetime only through the keys that have expired (`Spec/LimiterExpiry.lean`). -/
structure RedisLimiter where
  keyPrefix : String
  failMode : FailMode
  limits : LimiterConfig

namespace RedisLimiter

/-- The limiter's buckets in Redis, by key. -/
abbrev Db := String → Option RedisBucket

/-- `tenant_key`: the Redis key of a tenant's bucket. -/
def tenantKey (l : RedisLimiter) (tenant : String) : String :=
  l.keyPrefix ++ ":t:" ++ tenant

/-- `user_key`: the Redis key of a user's bucket. -/
def userKey (l : RedisLimiter) (tenant user : String) : String :=
  l.keyPrefix ++ ":u:" ++ tenant ++ "|" ++ user

/-- `take_one`: run the script on one key. `none` is the Redis error. -/
def takeOne (fault : EvalFault) (key : String) (rate : BucketRate) (nowMs : ℚ) (db : Db) :
    Option Bool × Db :=
  let r := tokenBucketScript rate.rpcsPerSecond rate.burst nowMs (db key)
  match fault with
  | .none => (some r.1, Function.update db key (some r.2))
  | .failed => (Option.none, db)
  -- The script ran, and only its answer is missing.
  | .replyLost => (Option.none, Function.update db key (some r.2))

/-- `handle_redis_error`: reject or go on, by the fail mode. -/
def handleRedisError (l : RedisLimiter) : Option Verdict :=
  match l.failMode with
  | .openMode => none
  | .closedMode => some .unavailable

/-- One bucket of `check`: skipped when disabled, else one `takeOne`. `some v` returns `v`
to the caller, `none` goes on. -/
def checkBucket (l : RedisLimiter) (scope : RejectScope) (fault : EvalFault) (key : String)
    (rate : BucketRate) (nowMs : ℚ) (db : Db) : Option Verdict × Db :=
  if rate.isEnabled then
    match takeOne fault key rate nowMs db with
    | (some true, db) => (none, db)
    | (some false, db) => (some (.rejected scope), db)
    | (none, db) => (l.handleRedisError, db)
  else (none, db)

/-- `RedisLimiter::check`: the tenant bucket, then the user bucket. -/
def check (l : RedisLimiter) (faultT faultU : EvalFault) (now : Clock)
    (tenant user : String) (db : Db) : Verdict × Db :=
  let limits := l.limits.limitsFor tenant
  if !limits.tenant.isEnabled && !limits.perUser.isEnabled then (.admitted, db)
  else
    match l.checkBucket .tenant faultT (l.tenantKey tenant) limits.tenant now.tenantTake db with
    | (some v, db) => (v, db)
    | (none, db) =>
      -- Also reached in open mode after an error on the tenant's key.
      match l.checkBucket .user faultU (l.userKey tenant user) limits.perUser now.userTake db with
      | (some v, db) => (v, db)
      | (none, db) => (.admitted, db)

end RedisLimiter

end SparkGateway.Spec
