import SparkGateway.Spec.LimiterExpiry

/-!
# `SparkGateway.Spec.RateLimitSettings`: from the `rate_limit` block to a limiter

The settings of `crates/config/src/lib.rs` and `build_rate_limiter` of `gateway/src/main.rs`.
The loader accepts every value of these fields, a missing field is its default. The Redis URL
and the connection that `build_rate_limiter` opens are left out; the limiter here is the one
that a successful connection returns.
-/

set_option autoImplicit false

namespace SparkGateway.Spec

/-- The buckets of one tenant, as configured. Every field defaults to zero. -/
structure BucketSettings where
  rpcsPerSecond : ℚ := 0
  burst : ℕ := 0
  perUserRpcsPerSecond : ℚ := 0
  perUserBurst : ℕ := 0
deriving DecidableEq

/-- Where the buckets are kept. -/
inductive RateLimitStore where
  | memory
  | redis
deriving DecidableEq, Repr

/-- What to do when Redis is unreachable. -/
inductive RateLimitFailMode where
  | openMode
  | closedMode
deriving DecidableEq, Repr

/-- `RateLimitRedisSettings` with its defaults. -/
structure RateLimitRedisSettings where
  keyPrefix : String := "scg-rl"
  keyTtlSecs : UInt64 := defaultRateLimitRedisKeyTtlSecs
  onFailure : RateLimitFailMode := .openMode

/-- `RateLimitSettings` with its defaults; by default nothing is limited. -/
structure RateLimitSettings where
  enabled : Bool := false
  store : RateLimitStore := .memory
  redis : RateLimitRedisSettings := {}
  default : BucketSettings := {}
  overrides : String → Option BucketSettings := fun _ => none

/-- The limiter of either store. The Redis limiter comes with the lifetime of its keys. -/
inductive RateLimiter where
  | memory (limits : LimiterConfig)
  | redis (limiter : RedisLimiter) (keyTtlSecs : UInt64)

/-- A bucket's rate and burst, as configured. -/
def bucketRate (rps : ℚ) (burst : ℕ) : BucketRate := ⟨rps, burst⟩

/-- `tenant_limits_from`. -/
def tenantLimitsFrom (cfg : BucketSettings) : TenantLimits where
  tenant := bucketRate cfg.rpcsPerSecond cfg.burst
  perUser := bucketRate cfg.perUserRpcsPerSecond cfg.perUserBurst

/-- `rate_limit_redis_config` with the limits of the tenants. -/
def rateLimitRedisConfig (s : RateLimitRedisSettings) (limits : LimiterConfig) : RedisLimiter where
  keyPrefix := s.keyPrefix
  failMode := match s.onFailure with
    | .openMode => .openMode
    | .closedMode => .closedMode
  limits := limits

/-- `build_rate_limiter`. `none` is a gateway without a limiter. -/
def buildRateLimiter (cfg : RateLimitSettings) : Option RateLimiter :=
  if !cfg.enabled then none
  else
    let limits : LimiterConfig :=
      ⟨fun tenant => (cfg.overrides tenant).map tenantLimitsFrom, tenantLimitsFrom cfg.default⟩
    match cfg.store with
    | .memory => some (.memory limits)
    | .redis => some (.redis (rateLimitRedisConfig cfg.redis limits) cfg.redis.keyTtlSecs)

end SparkGateway.Spec
