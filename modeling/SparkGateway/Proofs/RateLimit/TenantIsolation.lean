import Mathlib.Data.Set.Function
import SparkGateway.Proofs.RateLimit.RedisTable

/-!
# `SparkGateway.Proofs.RateLimit.TenantIsolation`: what other tenants can do to a tenant's calls

The buckets of all tenants are in one Redis key space. Tenant keys determine their tenant, but
a user key is `{prefix}:u:{tenant}|{user}`, and both parts may contain the separator. So a user
of one tenant and a user of another can have one bucket between them.

`Isolated l tenant calls` compares two runs: `calls`, and the calls of `tenant` alone. One call
reads and writes only the keys of its enabled buckets (`check_at`, `check_other`), so the keys
of `tenant` are the same in both runs as long as no other tenant's call writes one of them.

`tenantIsolated_iff` has two parts. A run is isolated for a tenant if no user of another tenant
in it has the bucket of one of the tenant's users. And isolation holds for every configuration
and every run in order of time over a set of callers exactly when no two callers of the set with
different tenants have the same text.
-/

set_option autoImplicit false

namespace SparkGateway.Proofs.RateLimit

open SparkGateway.Lib
open SparkGateway.Spec

/-! ### Runs -/

/-- A call of `RedisLimiter::check`, with the clock readings of its two takes. -/
structure Request where
  now : Clock
  tenant : String
  user : String

/-- `check` with both executions answered. -/
def redisCheck (l : RedisLimiter) (r : Request) (db : RedisLimiter.Db) :
    Verdict × RedisLimiter.Db :=
  l.check .none .none r.now r.tenant r.user db

/-- A Redis without a bucket. -/
def noBuckets : RedisLimiter.Db := fun _ => none

/-- The calls of a tenant get the same decisions when the calls of all other tenants are
deleted. -/
def Isolated (l : RedisLimiter) (tenant : String) (calls : List Request) : Prop :=
  transcript (redisCheck l) (calls.filter (·.tenant = tenant)) noBuckets
    = (transcript (redisCheck l) calls noBuckets).filter (·.1.tenant = tenant)

/-- The clock readings of the run, in order, never go back. -/
def InOrder (calls : List Request) : Prop :=
  (∀ r ∈ calls, r.now.tenantTake ≤ r.now.userTake) ∧
    calls.Pairwise fun r r' => r.now.userTake ≤ r'.now.tenantTake

/-! ### Keys -/

/-- The part of a user key that depends on the caller. -/
def userText (tenant user : String) : String := tenant ++ "|" ++ user

/-- Two user keys are equal exactly when the texts behind the prefix are. -/
theorem userKey_eq_iff (l : RedisLimiter) (t u t' u' : String) :
    l.userKey t u = l.userKey t' u' ↔ userText t u = userText t' u' := by
  rw [← String.toList_inj, ← String.toList_inj]
  simp [RedisLimiter.userKey, userText, String.toList_append]

/-- The tenant counts the RPCs of each user. -/
def PerUser (l : RedisLimiter) (tenant : String) : Prop :=
  (l.limits.limitsFor tenant).perUser.isEnabled = true

/-- The two callers are of different tenants and have one bucket between them. -/
def SharesBucket (l : RedisLimiter) (r r' : Request) : Prop :=
  r.tenant ≠ r'.tenant ∧ PerUser l r.tenant ∧ PerUser l r'.tenant ∧
    userText r.tenant r.user = userText r'.tenant r'.user

/-- The keys that the tenant's calls of a run can touch. -/
def ownKeys (l : RedisLimiter) (tenant : String) (calls : List Request) : Set String :=
  { key | key = l.tenantKey tenant ∨
    ∃ r ∈ calls, r.tenant = tenant ∧ PerUser l tenant ∧ key = l.userKey tenant r.user }

/-! ### One bucket -/

section
variable {l : RedisLimiter} {scope : RejectScope} {key : String} {rate : BucketRate} {now : ℚ}
variable {keys : Set String} {db db' : RedisLimiter.Db}

/-- A bucket whose key is in `keys`, if it is enabled: on two databases that agree on `keys` it
decides the same, and they still agree. -/
theorem checkBucket_at (hkey : rate.isEnabled = true → key ∈ keys) (h : Set.EqOn db db' keys) :
    (l.checkBucket scope .none key rate now db).1 = (l.checkBucket scope .none key rate now db').1 ∧
      Set.EqOn (l.checkBucket scope .none key rate now db).2
        (l.checkBucket scope .none key rate now db').2 keys := by
  cases hon : rate.isEnabled with
  | false =>
    rw [Redis.checkBucket_off _ _ _ _ _ _ hon, Redis.checkBucket_off _ _ _ _ _ _ hon]
    exact ⟨rfl, h⟩
  | true =>
    rw [Redis.checkBucket_script _ _ _ _ _ hon, Redis.checkBucket_script _ _ _ _ _ hon,
      h (hkey hon)]
    refine ⟨rfl, fun k hk => ?_⟩
    by_cases hkk : k = key
    · subst hkk
      simp only [Function.update_self]
    · simp only [Function.update_of_ne hkk]
      exact h hk

/-- A bucket whose key is not in `keys`, if it is enabled, changes nothing there. -/
theorem checkBucket_other (hkey : rate.isEnabled = true → key ∉ keys) :
    Set.EqOn (l.checkBucket scope .none key rate now db).2 db keys := by
  cases hon : rate.isEnabled with
  | false =>
    rw [Redis.checkBucket_off _ _ _ _ _ _ hon]
    exact Set.eqOn_refl db keys
  | true =>
    rw [Redis.checkBucket_script _ _ _ _ _ hon]
    intro k hk
    have hne : k ≠ key := fun heq => hkey hon (heq ▸ hk)
    exact Function.update_of_ne hne _ _

end

/-! ### One call -/

section
variable {l : RedisLimiter} {r : Request} {keys : Set String} {db db' : RedisLimiter.Db}

/-- The tenant bucket of a call. -/
def tenantStage (l : RedisLimiter) (r : Request) (db : RedisLimiter.Db) :
    Option Verdict × RedisLimiter.Db :=
  l.checkBucket .tenant .none (l.tenantKey r.tenant) (l.limits.limitsFor r.tenant).tenant
    r.now.tenantTake db

/-- The user bucket of a call. -/
def userStage (l : RedisLimiter) (r : Request) (db : RedisLimiter.Db) :
    Option Verdict × RedisLimiter.Db :=
  l.checkBucket .user .none (l.userKey r.tenant r.user) (l.limits.limitsFor r.tenant).perUser
    r.now.userTake db

/-- A call takes from the tenant bucket, and then, if that does not reject it, from the user
bucket. -/
theorem redisCheck_eq (l : RedisLimiter) (r : Request) (db : RedisLimiter.Db) :
    redisCheck l r db =
      match (tenantStage l r db).1 with
      | some v => (v, (tenantStage l r db).2)
      | none => (((userStage l r (tenantStage l r db).2).1).getD .admitted,
          (userStage l r (tenantStage l r db).2).2) := by
  unfold redisCheck RedisLimiter.check
  dsimp only
  split
  · -- With both buckets disabled the source returns early; neither stage does anything.
    rename_i hoff
    simp only [Bool.and_eq_true, Bool.not_eq_true'] at hoff
    simp only [tenantStage, userStage, Redis.checkBucket_off _ _ _ _ _ _ hoff.1,
      Redis.checkBucket_off _ _ _ _ _ _ hoff.2]
    rfl
  · rcases htenant : tenantStage l r db with ⟨_ | v, db₁⟩
    · unfold tenantStage at htenant
      simp only [htenant]
      rcases huser : userStage l r db₁ with ⟨_ | v, db₂⟩
      · unfold userStage at huser
        simp only [huser, Option.getD_none]
      · unfold userStage at huser
        simp only [huser, Option.getD_some]
    · unfold tenantStage at htenant
      simp only [htenant]

/-- A call whose enabled buckets have keys in `keys`: on two databases that agree on `keys` it
gets the same decision, and they still agree. -/
theorem check_at (htenant : l.tenantKey r.tenant ∈ keys)
    (huser : PerUser l r.tenant → l.userKey r.tenant r.user ∈ keys) (h : Set.EqOn db db' keys) :
    (redisCheck l r db').1 = (redisCheck l r db).1 ∧
      Set.EqOn (redisCheck l r db).2 (redisCheck l r db').2 keys := by
  have hT : (tenantStage l r db).1 = (tenantStage l r db').1 ∧
      Set.EqOn (tenantStage l r db).2 (tenantStage l r db').2 keys :=
    checkBucket_at (fun _ => htenant) h
  have hU : (userStage l r (tenantStage l r db).2).1 = (userStage l r (tenantStage l r db').2).1 ∧
      Set.EqOn (userStage l r (tenantStage l r db).2).2
        (userStage l r (tenantStage l r db').2).2 keys :=
    checkBucket_at huser hT.2
  rw [redisCheck_eq, redisCheck_eq, ← hT.1, ← hU.1]
  cases (tenantStage l r db).1 with
  | some v => exact ⟨rfl, hT.2⟩
  | none => exact ⟨rfl, hU.2⟩

/-- A call whose enabled buckets have no key in `keys` changes nothing there. -/
theorem check_other (htenant : l.tenantKey r.tenant ∉ keys)
    (huser : PerUser l r.tenant → l.userKey r.tenant r.user ∉ keys) :
    Set.EqOn (redisCheck l r db).2 db keys := by
  have hT : Set.EqOn (tenantStage l r db).2 db keys := checkBucket_other fun _ => htenant
  have hU : Set.EqOn (userStage l r (tenantStage l r db).2).2 (tenantStage l r db).2 keys :=
    checkBucket_other huser
  rw [redisCheck_eq]
  cases (tenantStage l r db).1 with
  | some v => exact hT
  | none => exact hU.trans hT

end

/-! ### Whole runs -/

section
variable {l : RedisLimiter} {tenant : String} {calls : List Request}

/-- The tenant's own call stays within its keys. -/
theorem ownKeys_own {r : Request} (hr : r ∈ calls) (htenant : r.tenant = tenant) :
    l.tenantKey r.tenant ∈ ownKeys l tenant calls ∧
      (PerUser l r.tenant → l.userKey r.tenant r.user ∈ ownKeys l tenant calls) := by
  subst htenant
  exact ⟨Or.inl rfl, fun hper => Or.inr ⟨r, hr, rfl, hper, rfl⟩⟩

/-- Another tenant's call stays outside them, if no one shares a bucket. -/
theorem ownKeys_other {r : Request} (hr : r ∈ calls) (htenant : r.tenant ≠ tenant)
    (hshare : ∀ r ∈ calls, ∀ r' ∈ calls, r.tenant = tenant → ¬ SharesBucket l r r') :
    l.tenantKey r.tenant ∉ ownKeys l tenant calls ∧
      (PerUser l r.tenant → l.userKey r.tenant r.user ∉ ownKeys l tenant calls) := by
  constructor
  · rintro (heq | ⟨r', _, _, _, heq⟩)
    · exact htenant (Redis.tenantKey_inj l heq)
    · exact Redis.tenantKey_ne_userKey l _ _ _ heq
  · rintro hper (heq | ⟨r', hr', rfl, hper', heq⟩)
    · exact Redis.tenantKey_ne_userKey l _ _ _ heq.symm
    · exact hshare r' hr' r hr rfl ⟨Ne.symm htenant, hper', hper,
        ((userKey_eq_iff l _ _ _ _).mp heq).symm⟩

/-- A run in which no user of another tenant has the bucket of one of the tenant's users. -/
theorem isolated_of_not_sharesBucket (l : RedisLimiter) (tenant : String) (calls : List Request)
    (hshare : ∀ r ∈ calls, ∀ r' ∈ calls, r.tenant = tenant → ¬ SharesBucket l r r') :
    Isolated l tenant calls := by
  unfold Isolated
  refine purge_calls_of_sim
    (fun rest db db' => (∀ r ∈ rest, r ∈ calls) ∧ Set.EqOn db db' (ownKeys l tenant calls))
    ?_ ?_ calls noBuckets noBuckets ⟨fun _ hr => hr, Set.eqOn_refl _ _⟩
  · rintro r rest db db' ⟨hrest, hkeys⟩ hkeep
    obtain ⟨htenant, huser⟩ :=
      ownKeys_own (l := l) (hrest r List.mem_cons_self) (of_decide_eq_true hkeep)
    obtain ⟨hverdict, hkeys'⟩ := check_at htenant huser hkeys
    exact ⟨hverdict, fun r' hr' => hrest r' (List.mem_cons_of_mem _ hr'), hkeys'⟩
  · rintro r rest db db' ⟨hrest, hkeys⟩ hdrop
    obtain ⟨htenant, huser⟩ :=
      ownKeys_other (hrest r List.mem_cons_self) (of_decide_eq_false hdrop) hshare
    exact ⟨fun r' hr' => hrest r' (List.mem_cons_of_mem _ hr'),
      (check_other htenant huser).trans hkeys⟩

end

/-- Limits without tenant buckets, and one token a second for each user. -/
def oneForEachUser : LimiterConfig := ⟨fun _ => none, ⟨.disabled, ⟨1, 1⟩⟩⟩

/-- Two callers at time 0. -/
def bothAtOnce (t u t' u' : String) : List Request := [⟨⟨0, 0⟩, t, u⟩, ⟨⟨0, 0⟩, t', u'⟩]

/-- With these limits a call is one execution of the script on the key of its user. -/
theorem redisCheck_oneForEachUser (keyPrefix : String) (failMode : FailMode) (t u : String)
    (db : RedisLimiter.Db) :
    let l : RedisLimiter := ⟨keyPrefix, failMode, oneForEachUser⟩
    let r := tokenBucketScript 1 1 0 (db (l.userKey t u))
    redisCheck l ⟨⟨0, 0⟩, t, u⟩ db
      = (if r.1 then .admitted else .rejected .user,
          Function.update db (l.userKey t u) (some r.2)) := by
  intro l r
  -- Only the user bucket is in force.
  have hoff : BucketRate.disabled.isEnabled = false := by decide +kernel
  have hon : (⟨1, 1⟩ : BucketRate).isEnabled = true := by decide +kernel
  have htenant : tenantStage l ⟨⟨0, 0⟩, t, u⟩ db = (none, db) :=
    Redis.checkBucket_off l _ _ _ _ _ hoff
  have huser : userStage l ⟨⟨0, 0⟩, t, u⟩ db
      = (if r.1 then none else some (.rejected .user),
          Function.update db (l.userKey t u) (some r.2)) := by
    show l.checkBucket .user .none (l.userKey t u) ⟨1, 1⟩ 0 db = _
    rw [Redis.checkBucket_script l .user _ 0 db hon]
    simp only [Nat.cast_one, r]
  rw [redisCheck_eq, htenant]
  simp only [huser]
  cases r.1 <;> rfl

/-- Callers of two tenants with one text: the first takes the only token of the second. -/
theorem not_isolated_of_userText_eq (keyPrefix : String) (failMode : FailMode)
    {t u t' u' : String} (ht : t ≠ t') (htext : userText t u = userText t' u') :
    ¬ Isolated ⟨keyPrefix, failMode, oneForEachUser⟩ t' (bothAtOnce t u t' u') := by
  intro hiso
  have hkey := (userKey_eq_iff ⟨keyPrefix, failMode, oneForEachUser⟩ t u t' u').mpr htext
  have hfull : tokenBucketScript 1 1 0 none = (true, ⟨0, 0⟩) := by decide +kernel
  have hempty : tokenBucketScript 1 1 0 (some ⟨0, 0⟩) = (false, ⟨0, 0⟩) := by decide +kernel
  unfold Isolated at hiso
  simp [bothAtOnce, transcript, ht, redisCheck_oneForEachUser, noBuckets, hkey, hfull, hempty]
    at hiso

/-- **When tenants are isolated** in the Redis limiter. Every run is isolated for a tenant, if
no user of another tenant in it shares a bucket with one of the tenant's users. For a set of
callers, isolation for all limits, all tenants and all runs in order of time over the set says
exactly that no two callers of different tenants have the same text. -/
theorem tenantIsolated_iff (keyPrefix : String) (failMode : FailMode) :
    (∀ (limits : LimiterConfig) (tenant : String) (calls : List Request),
      (∀ r ∈ calls, ∀ r' ∈ calls, r.tenant = tenant →
        ¬ SharesBucket ⟨keyPrefix, failMode, limits⟩ r r') →
      Isolated ⟨keyPrefix, failMode, limits⟩ tenant calls) ∧
    ∀ callers : Set (String × String),
      (∀ (limits : LimiterConfig) (tenant : String) (calls : List Request), InOrder calls →
        (∀ r ∈ calls, (r.tenant, r.user) ∈ callers) →
        Isolated ⟨keyPrefix, failMode, limits⟩ tenant calls) ↔
      ∀ c ∈ callers, ∀ c' ∈ callers, userText c.1 c.2 = userText c'.1 c'.2 → c.1 = c'.1 := by
  refine ⟨fun limits tenant calls => isolated_of_not_sharesBucket _ tenant calls,
    fun callers => ⟨?_, ?_⟩⟩
  · -- Two callers with one text share a bucket of one token, and one of them takes it from the
    -- other.
    intro hall c hc c' hc' htext
    by_contra hne
    refine not_isolated_of_userText_eq keyPrefix failMode hne htext
      (hall oneForEachUser c'.1 _ ?_ ?_)
    · simp [InOrder, bothAtOnce]
    · intro r hr
      simp only [bothAtOnce, List.mem_cons, List.not_mem_nil, or_false] at hr
      rcases hr with rfl | rfl
      · exact hc
      · exact hc'
  · intro htexts limits tenant calls _ hcallers
    refine isolated_of_not_sharesBucket _ tenant calls fun r hr r' hr' _ hshare => ?_
    obtain ⟨hne, _, _, htext⟩ := hshare
    exact hne (htexts _ (hcallers r hr) _ (hcallers r' hr') htext)

/-- The tenant `a|b` with the user `c` and the tenant `a` with the user `b|c`, one token a
second for each user: alone, the second caller is admitted; after a call of the first one it
is rejected. -/
theorem otherTenant_takes_token :
    let l : RedisLimiter := ⟨"scg-rl", .openMode, oneForEachUser⟩
    (transcript (redisCheck l) (bothAtOnce "a|b" "c" "a" "b|c") noBuckets).map Prod.snd
        = [.admitted, .rejected .user] ∧
      (transcript (redisCheck l)
          ((bothAtOnce "a|b" "c" "a" "b|c").filter (·.tenant = "a")) noBuckets).map Prod.snd
        = [.admitted] := by
  decide +kernel

end SparkGateway.Proofs.RateLimit
