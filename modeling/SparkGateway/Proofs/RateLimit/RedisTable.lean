import SparkGateway.Proofs.RateLimit.ScriptClock
import SparkGateway.Proofs.RateLimit.TableModel

/-!
# `SparkGateway.Proofs.RateLimit.RedisTable`: the Redis limiter is a table

`RedisLimiter::check` runs `TOKEN_BUCKET_SCRIPT` on the key of each enabled bucket. The
database is a table as it stands, with times in milliseconds, so the slots have rates per
millisecond. Tenant keys determine the tenant and differ from all user keys. User keys do
not determine the tenant and the user, since both may contain the separator, and nothing
here needs that.

No Redis error occurs in this model of the limiter; both executions are answered.
-/

set_option autoImplicit false

namespace SparkGateway.Proofs.RateLimit

open SparkGateway.Lib
open SparkGateway.Lib.TokenBucket
open SparkGateway.Spec

/-- The tokens under a Redis key, refilled to `nowMs` as the script does it. -/
def redisBalance (rate : BucketRate) (nowMs : ℚ) (data : Option RedisBucket) : ℚ :=
  match data with
  | some b =>
      min (rate.burst : ℚ) (b.tokens + max 0 ((nowMs - b.ts) / 1000) * rate.rpcsPerSecond)
  | none => rate.burst

/-- The Redis limiter, without Redis errors. -/
def redisLimiter (l : RedisLimiter) : Limiter RedisLimiter.Db where
  limits := l.limits
  fresh := fun _ => none
  check c db := l.check .none .none ⟨c.now, c.now⟩ c.tenant c.user db
  tenantBalance now tenant db :=
    redisBalance (l.limits.limitsFor tenant).tenant now (db (l.tenantKey tenant))
  userBalance now tenant user db :=
    redisBalance (l.limits.limitsFor tenant).perUser now (db (l.userKey tenant user))

namespace Redis

/-- The slot of a tenant, under its Redis key and per millisecond. -/
def tenantSlot (l : RedisLimiter) (t : String) : Slot String ℚ :=
  ⟨l.tenantKey t, (l.limits.limitsFor t).tenant.rpcsPerSecond / 1000,
    (l.limits.limitsFor t).tenant.burst⟩

/-- The slot of a user of a tenant, under its Redis key and per millisecond. -/
def userSlot (l : RedisLimiter) (t u : String) : Slot String ℚ :=
  ⟨l.userKey t u, (l.limits.limitsFor t).perUser.rpcsPerSecond / 1000,
    (l.limits.limitsFor t).perUser.burst⟩

/-- The stored hashes as levels. -/
def abs (db : RedisLimiter.Db) : Table String ℚ := fun k => (db k).map fun b => ⟨b.tokens, b.ts⟩

/-- Writing a bucket writes its level. -/
theorem abs_update (db : RedisLimiter.Db) (key : String) (b : RedisBucket) :
    abs (Function.update db key (some b))
      = Function.update (abs db) key (some ⟨b.tokens, b.ts⟩) := by
  funext k
  by_cases h : k = key
  · subst h
    simp [abs]
  · simp [abs, h]

/-- The balance under a key, with the rate per millisecond. -/
theorem redisBalance_eq (rate : BucketRate) (now : ℚ) (key : String) (db : RedisLimiter.Db) :
    redisBalance rate now (db key)
      = balance now ⟨key, rate.rpcsPerSecond / 1000, rate.burst⟩ (abs db) := by
  have hmax : ∀ x : ℚ, max 0 (x / 1000) = max 0 x / 1000 := by
    intro x
    have hdiv := max_div_div_right (c := (1000 : ℚ)) (by norm_num) 0 x
    rwa [zero_div] at hdiv
  unfold redisBalance balance
  cases hb : db key with
  | none => simp [abs, hb]
  | some b =>
    simp only [abs, hb, Option.map_some, refill, hmax]
    congr 2
    ring

/-- The script is a take of the refilled balance. -/
theorem tokenBucketScript_eq (rate : BucketRate) (now : ℚ) (data : Option RedisBucket) :
    tokenBucketScript rate.rpcsPerSecond rate.burst now data
      = ((take (redisBalance rate now data)).1, ⟨(take (redisBalance rate now data)).2, now⟩) := by
  cases data with
  | none =>
    -- A fresh key is full, and no time has passed for it.
    rw [tokenBucketScript_none, tokenBucketScript_some]
    simp [redisBalance, refill]
  | some b => exact tokenBucketScript_some _ _ _ _

/-- One bucket of `check`, when it is enabled: the script on its key. -/
theorem checkBucket_script (l : RedisLimiter) (scope : RejectScope) (key : String)
    {rate : BucketRate} (now : ℚ) (db : RedisLimiter.Db) (hon : rate.isEnabled = true) :
    l.checkBucket scope .none key rate now db =
      let r := tokenBucketScript rate.rpcsPerSecond rate.burst now (db key)
      (if r.1 then none else some (.rejected scope), Function.update db key (some r.2)) := by
  simp only [RedisLimiter.checkBucket, hon, if_true, RedisLimiter.takeOne]
  cases (tokenBucketScript rate.rpcsPerSecond rate.burst now (db key)).1 <;> rfl

/-- One bucket of `check`, when it is enabled: one take on its slot. -/
theorem checkBucket_on (l : RedisLimiter) (scope : RejectScope) (key : String)
    {rate : BucketRate} (now : ℚ) (db : RedisLimiter.Db) (hon : rate.isEnabled = true) :
    ∃ db', l.checkBucket scope .none key rate now db
        = (if (takeAt now ⟨key, rate.rpcsPerSecond / 1000, rate.burst⟩ (abs db)).1 then none
            else some (.rejected scope), db') ∧
      abs db' = (takeAt now ⟨key, rate.rpcsPerSecond / 1000, rate.burst⟩ (abs db)).2 := by
  -- Name the answer and the tokens left: the script and the table share both.
  rcases htake : take (redisBalance rate now (db key)) with ⟨b, tokens⟩
  have hscript : tokenBucketScript rate.rpcsPerSecond rate.burst now (db key)
      = (b, ⟨tokens, now⟩) := by
    rw [tokenBucketScript_eq, htake]
  rw [redisBalance_eq] at htake
  simp only [checkBucket_script l scope key now db hon, hscript, takeAt, htake]
  exact ⟨Function.update db key (some ⟨tokens, now⟩), rfl, abs_update _ _ _⟩

/-- A bucket that is not enabled is not asked. -/
theorem checkBucket_off (l : RedisLimiter) (scope : RejectScope) (fault : EvalFault)
    (key : String) {rate : BucketRate} (now : ℚ) (db : RedisLimiter.Db)
    (hoff : rate.isEnabled = false) :
    l.checkBucket scope fault key rate now db = (none, db) := by
  simp [RedisLimiter.checkBucket, hoff]

/-- The second half of `check` charges the user bucket if it is enabled. -/
theorem userStage_eq (l : RedisLimiter) (now : ℚ) (t u : String) (db : RedisLimiter.Db) :
    let r := match l.checkBucket .user .none (l.userKey t u)
        (l.limits.limitsFor t).perUser now db with
      | (some v, db) => (v, db)
      | (none, db) => (Verdict.admitted, db)
    let q := charge (if (l.limits.limitsFor t).perUser.isEnabled then
      [(⟨.user, userSlot l t u, now⟩ : Ask RejectScope String ℚ)] else []) (abs db)
    r.1 = verdictOf q.1 ∧ abs r.2 = q.2 := by
  cases hU : (l.limits.limitsFor t).perUser.isEnabled with
  | false =>
    rw [checkBucket_off _ _ _ _ _ _ hU]
    exact ⟨rfl, rfl⟩
  | true =>
    obtain ⟨db', heq, habs⟩ := checkBucket_on l .user (l.userKey t u) now db hU
    rw [heq]
    simp only [if_true, charge, userSlot]
    cases htake : (takeAt now _ (abs db)).1 with
    | false => exact ⟨rfl, habs⟩
    | true => exact ⟨rfl, habs⟩

/-- `check` charges the enabled buckets of the call, each at the time of its take. -/
theorem check_charge (l : RedisLimiter) (now : Clock) (t u : String) (db : RedisLimiter.Db) :
    let r := l.check .none .none now t u db
    let q := charge (clockAsks l.limits (tenantSlot l) (userSlot l) now t u) (abs db)
    r.1 = verdictOf q.1 ∧ abs r.2 = q.2 := by
  unfold clockAsks
  simp only [RedisLimiter.check]
  cases hT : (l.limits.limitsFor t).tenant.isEnabled with
  | true =>
    obtain ⟨db', heq, habs⟩ := checkBucket_on l .tenant (l.tenantKey t) now.tenantTake db hT
    rw [heq]
    simp only [Bool.not_true, Bool.false_and, Bool.false_eq_true, if_false, if_true,
      List.singleton_append, charge, tenantSlot]
    -- A tenant bucket that rejects ends the check.
    cases htake : (takeAt now.tenantTake _ (abs db)).1 with
    | false => exact ⟨rfl, habs⟩
    | true =>
      simp only [if_true]
      rw [← habs]
      exact userStage_eq l now.userTake t u db'
  | false =>
    -- Without a tenant bucket only the user's is asked.
    rw [checkBucket_off _ _ _ _ _ _ hT]
    have huser := userStage_eq l now.userTake t u db
    cases hU : (l.limits.limitsFor t).perUser.isEnabled with
    | false => exact ⟨rfl, rfl⟩
    | true =>
      rw [hU] at huser
      exact huser

/-- `check` with one reading of the clock. -/
theorem check_eq (l : RedisLimiter) (c : Call) (db : RedisLimiter.Db) :
    let r := (redisLimiter l).check c db
    let q := charge (asksOf l.limits (tenantSlot l) (userSlot l) c) (abs db)
    r.1 = verdictOf q.1 ∧ abs r.2 = q.2 :=
  check_charge l ⟨c.now, c.now⟩ c.tenant c.user db

/-- Keys of two kinds, or of two tenants, differ. -/
theorem tenantKey_inj (l : RedisLimiter) {t t' : String} (h : l.tenantKey t = l.tenantKey t') :
    t = t' := by
  have hlist := congrArg String.toList h
  simp only [RedisLimiter.tenantKey, String.toList_append, List.append_cancel_left_eq] at hlist
  exact String.toList_inj.mp hlist

/-- A tenant's key is never a user's. -/
theorem tenantKey_ne_userKey (l : RedisLimiter) (t t' u : String) :
    l.tenantKey t ≠ l.userKey t' u := by
  intro h
  have hlist := congrArg String.toList h
  simp [RedisLimiter.tenantKey, RedisLimiter.userKey, String.toList_append] at hlist

/-- The Redis limiter is a table of buckets. -/
def model (l : RedisLimiter) : TableModel (redisLimiter l) String where
  abs := abs
  Inv _ := True
  tenantSlot := tenantSlot l
  userSlot := userSlot l
  inv_fresh := trivial
  abs_fresh _ := rfl
  inv_check _ _ _ := trivial
  check_fst c db _ := (check_eq l c db).1
  check_snd c db _ := (check_eq l c db).2
  tenantBalance_eq now t db _ _ := redisBalance_eq _ now _ db
  userBalance_eq now t u db _ := redisBalance_eq _ now _ db
  rate_nonneg t hon := by
    have hpos : (l.limits.limitsFor t).tenant.rpcsPerSecond > 0 :=
      of_decide_eq_true (Bool.and_eq_true_iff.mp hon).1
    exact div_nonneg hpos.le (by norm_num)
  tenantSlot_inj _ _ h := tenantKey_inj l h
  tenantSlot_ne_userSlot t t' u := tenantKey_ne_userKey l t t' u

end Redis

end SparkGateway.Proofs.RateLimit
