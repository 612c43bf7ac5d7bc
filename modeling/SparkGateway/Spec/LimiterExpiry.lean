import SparkGateway.Spec.RateLimit

/-!
# `SparkGateway.Spec.LimiterExpiry`: the bucket script with the lifetime of its key

`take_one` passes `key_ttl` to `TOKEN_BUCKET_SCRIPT`, and the script ends with `EXPIRE`. Here a
key carries the time at which it is gone, and an execution from that time on finds no key.
Times are in milliseconds, the lifetime is in whole seconds.
-/

set_option autoImplicit false

namespace SparkGateway.Spec

/-- `default_rate_limit_redis_key_ttl_secs`. -/
def defaultRateLimitRedisKeyTtlSecs : UInt64 := 3600

/-- `key_ttl.as_secs() as i64`: from `2 ^ 63` on the lifetime becomes negative. -/
def ttlArg (keyTtlSecs : UInt64) : ℤ := keyTtlSecs.toInt64.toInt

/-- A bucket key with the time from which on it is gone. -/
structure ExpiringBucket where
  bucket : RedisBucket
  expiresAt : ℚ
deriving DecidableEq

/-- What an execution at `nowMs` finds under the key. -/
def bucketAt (nowMs : ℚ) (data : Option ExpiringBucket) : Option RedisBucket :=
  match data with
  | some d => if nowMs < d.expiresAt then some d.bucket else none
  | none => none

/-- One execution of the script with its last command, `EXPIRE key ttl`. A lifetime that is
not positive removes the key at once: no later execution is before `expiresAt`. -/
def expiringScript (rate capacity nowMs : ℚ) (ttl : ℤ) (data : Option ExpiringBucket) :
    Bool × ExpiringBucket :=
  let r := tokenBucketScript rate capacity nowMs (bucketAt nowMs data)
  (r.1, ⟨r.2, nowMs + 1000 * ttl⟩)

end SparkGateway.Spec
