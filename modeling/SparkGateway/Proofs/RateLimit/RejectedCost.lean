import SparkGateway.Proofs.RateLimit.MemoryTable
import SparkGateway.Proofs.RateLimit.RedisTable

/-!
# `SparkGateway.Proofs.RateLimit.RejectedCost`: what a rejected RPC costs

Both limiters take a token of the tenant bucket, then one of the user bucket, and stop at
the first bucket that has none. A call that the tenant bucket rejects costs nothing. A call
that the user bucket rejects has already taken a token of the tenant bucket, and nothing
puts it back. So one user who is over their own limit uses up the quota of their tenant.

`rejectionsFree_limiters` is the exact statement, for both limiters.
`user_rejection_costs_token` is a run in which the rejected call of one user makes the
limiter reject another user of the tenant.
-/

set_option autoImplicit false

namespace SparkGateway.Proofs.RateLimit

open SparkGateway.Lib
open SparkGateway.Lib.TokenBucket
open SparkGateway.Spec

/-- **The cost of a rejection**, for the in-memory and for the Redis limiter. A rejected call
leaves both balances as they were exactly when the tenant bucket was empty. The rejected
calls of one user, each of which found the tenant bucket empty, can be deleted from a run
without changing another decision. -/
theorem rejectionsFree_limiters (cfg : LimiterConfig) (l : RedisLimiter) :
    RejectionsFree (memoryLimiter cfg) ∧ RejectionsFree (redisLimiter l) :=
  ⟨(Memory.model cfg).rejectionsFree, (Redis.model l).rejectionsFree⟩

/-- Every tenant has a burst of two RPCs, and each of its users a burst of one. -/
def burstTwoOne : LimiterConfig := ⟨fun _ => none, ⟨⟨1, 2⟩, ⟨1, 1⟩⟩⟩

/-- What a rejection by the user bucket costs. At one time, Alice makes two calls and Bob
one. Alice's second call is rejected by her own bucket, it has taken the tenant's last
token, and Bob is rejected by the tenant bucket. Without that call, Bob is admitted. -/
def UserRejectionCosts {σ : Type} (L : Limiter σ) : Prop :=
  let alice : Call := ⟨0, "t", "alice"⟩
  let bob : Call := ⟨0, "t", "bob"⟩
  BothEnabled L.limits "t" ∧
    transcript L.check [alice, alice, bob] L.fresh
      = [(alice, .admitted), (alice, .rejected .user), (bob, .rejected .tenant)] ∧
    ¬ CostsNothing L alice (final L.check [alice] L.fresh) ∧
    transcript L.check [alice, bob] L.fresh = [(alice, .admitted), (bob, .admitted)]

/-- In both limiters the rejected call of one user costs another user's. -/
theorem user_rejection_costs_token :
    UserRejectionCosts (memoryLimiter burstTwoOne) ∧
      UserRejectionCosts (redisLimiter ⟨"scg:rl", .openMode, burstTwoOne⟩) := by
  unfold UserRejectionCosts CostsNothing BothEnabled
  decide +kernel

end SparkGateway.Proofs.RateLimit
