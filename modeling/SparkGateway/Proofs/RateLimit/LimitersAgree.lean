import SparkGateway.Proofs.RateLimit.MemoryTable
import SparkGateway.Proofs.RateLimit.TenantIsolation

/-!
# `SparkGateway.Proofs.RateLimit.LimitersAgree`: one limiter, two stores

The in-memory limiter keeps nested maps of buckets with times in seconds, and the Redis limiter
keeps hashes under flat keys with times in milliseconds. Both are tables of buckets, and the two
tables are the same up to the keys and the unit of time (`Renames`). The keys of the users are
distinct as long as no tenant has the separator in its name (`keyOf_injOn`), so for calls of such
tenants the relation survives every call (`SameBuckets.check`), and the two limiters give the same
verdicts (`limiters_agree`).
-/

set_option autoImplicit false

namespace SparkGateway.Proofs.RateLimit

open SparkGateway.Lib
open SparkGateway.Lib.TokenBucket
open SparkGateway.Spec

/-- Clock readings in milliseconds, in seconds. -/
def inSeconds (now : Clock) : Clock := ⟨now.tenantTake / 1000, now.userTake / 1000⟩

/-- `MemoryLimiter::check`, with the readings of the call in milliseconds. -/
def memoryCheck (cfg : LimiterConfig) (r : Request) (s : MemoryLimiter.State) :
    Verdict × MemoryLimiter.State :=
  MemoryLimiter.check cfg (inSeconds r.now) r.tenant r.user s

/-- The tenant's name does not contain the separator of the user keys. -/
def PlainTenant (tenant : String) : Prop := '|' ∉ tenant.toList

/-! ### Keys -/

/-- The Redis key of a bucket. -/
def keyOf (l : RedisLimiter) : Memory.Key → String
  | .inl t => l.tenantKey t
  | .inr (t, u) => l.userKey t u

/-- The buckets of tenants, and those of users of plain tenants. -/
def plainKeys : Set Memory.Key := { k | ∀ t u, k = .inr (t, u) → PlainTenant t }

/-- The text of a user of a plain tenant determines both. -/
theorem userText_inj {t u t' u' : String} (ht : PlainTenant t) (ht' : PlainTenant t')
    (h : userText t u = userText t' u') : t = t' ∧ u = u' := by
  have hlist : t.toList ++ '|' :: u.toList = t'.toList ++ '|' :: u'.toList := by
    simpa [userText, String.toList_append] using congrArg String.toList h
  -- The tenant is what comes before the first separator.
  have hbefore : ∀ s : String, PlainTenant s → ∀ rest : List Char,
      (s.toList ++ '|' :: rest).takeWhile (· ≠ '|') = s.toList := by
    intro s hs rest
    have hne : ∀ c ∈ s.toList, decide (c ≠ '|') = true := by
      intro c hc
      exact decide_eq_true fun heq : c = '|' => hs (heq ▸ hc)
    rw [List.takeWhile_append_of_pos hne, List.takeWhile_cons_of_neg (by simp), List.append_nil]
  have htenant : t.toList = t'.toList := by
    rw [← hbefore t ht u.toList, hlist, hbefore t' ht' u'.toList]
  rw [htenant, List.append_cancel_left_eq, List.cons.injEq] at hlist
  exact ⟨String.toList_inj.mp htenant, String.toList_inj.mp hlist.2⟩

/-- Plain keys have different Redis keys. -/
theorem keyOf_injOn (l : RedisLimiter) : Set.InjOn (keyOf l) plainKeys := by
  rintro (t | ⟨t, u⟩) hk (t' | ⟨t', u'⟩) hk' heq
  · rw [Redis.tenantKey_inj l heq]
  · exact absurd heq (Redis.tenantKey_ne_userKey l t t' u')
  · exact absurd heq.symm (Redis.tenantKey_ne_userKey l t' t u)
  · obtain ⟨rfl, rfl⟩ := userText_inj (hk t u rfl) (hk' t' u' rfl)
      ((userKey_eq_iff l t u t' u').mp heq)
    rfl

/-! ### One call -/

section
variable {l : RedisLimiter} {r : Request} {s : MemoryLimiter.State} {db : RedisLimiter.Db}

/-- What a call asks of Redis is what it asks of the in-memory limiter, under the Redis keys and
in milliseconds. -/
theorem clockAsks_rename (l : RedisLimiter) (now : Clock) (t u : String) :
    (clockAsks l.limits (Memory.tenantSlot l.limits) (Memory.userSlot l.limits) (inSeconds now)
        t u).map (Ask.rename (keyOf l) 1000)
      = clockAsks l.limits (Redis.tenantSlot l) (Redis.userSlot l) now t u := by
  have hunit : ∀ x : ℚ, x / 1000 * 1000 = x := fun x => div_mul_cancel₀ x (by norm_num)
  unfold clockAsks
  rw [List.map_append]
  congr 1
  · cases (l.limits.limitsFor t).tenant.isEnabled with
    | false => rfl
    | true =>
      simp only [if_true, List.map_cons, List.map_nil, Ask.rename, inSeconds, hunit]
      rfl
  · cases (l.limits.limitsFor t).perUser.isEnabled with
    | false => rfl
    | true =>
      simp only [if_true, List.map_cons, List.map_nil, Ask.rename, inSeconds, hunit]
      rfl

/-- A call of a plain tenant asks for plain keys only. -/
theorem clockAsks_plain (hr : PlainTenant r.tenant) :
    ∀ a ∈ clockAsks l.limits (Memory.tenantSlot l.limits) (Memory.userSlot l.limits)
      (inSeconds r.now) r.tenant r.user, a.slot.key ∈ plainKeys := by
  intro a ha t u hkey
  unfold clockAsks at ha
  rcases List.mem_append.mp ha with ha | ha <;> split at ha
  · obtain rfl := List.mem_singleton.mp ha
    cases hkey
  · cases ha
  · obtain rfl := List.mem_singleton.mp ha
    cases hkey
    exact hr
  · cases ha

/-- The states hold the same buckets. -/
structure SameBuckets (l : RedisLimiter) (s : MemoryLimiter.State) (db : RedisLimiter.Db) :
    Prop where
  inv : Memory.Inv l.limits s
  renames : Renames (keyOf l) 1000 plainKeys (Memory.abs l.limits s) (Redis.abs db)

/-- A call of a plain tenant gets the same verdict, and leaves the same buckets. -/
theorem SameBuckets.check (h : SameBuckets l s db) (hr : PlainTenant r.tenant) :
    (redisCheck l r db).1 = (memoryCheck l.limits r s).1 ∧
      SameBuckets l (memoryCheck l.limits r s).2 (redisCheck l r db).2 := by
  obtain ⟨hverdict, habs, hinv⟩ :=
    Memory.check_charge l.limits (inSeconds r.now) r.tenant r.user s h.inv
  obtain ⟨hverdict', habs'⟩ := Redis.check_charge l r.now r.tenant r.user db
  obtain ⟨hfst, hsnd⟩ := charge_rename (by norm_num) (keyOf_injOn l) (clockAsks_plain hr) h.renames
  rw [clockAsks_rename] at hfst hsnd
  refine ⟨?_, hinv, ?_⟩
  · show (l.check .none .none r.now r.tenant r.user db).1
      = (MemoryLimiter.check l.limits (inSeconds r.now) r.tenant r.user s).1
    rw [hverdict, hverdict', hfst]
  · show Renames (keyOf l) 1000 plainKeys
      (Memory.abs l.limits (MemoryLimiter.check l.limits (inSeconds r.now) r.tenant r.user s).2)
      (Redis.abs (l.check .none .none r.now r.tenant r.user db).2)
    rw [habs, habs']
    exact hsnd

end

/-! ### Whole runs -/

/-- Before the first call there are no buckets. -/
theorem sameBuckets_fresh (l : RedisLimiter) : SameBuckets l (fun _ => none) noBuckets where
  inv := (Memory.model l.limits).inv_fresh
  renames k _ := by
    have hnone : Memory.abs l.limits (fun _ => none) k = none := (Memory.model l.limits).abs_fresh k
    rw [hnone]
    rfl

/-- Calls of plain tenants stay plain along a run. -/
theorem along_plain {cfg : LimiterConfig} {calls : List Request}
    (h : ∀ r ∈ calls, PlainTenant r.tenant) (s : MemoryLimiter.State) :
    Along (memoryCheck cfg) (fun r _ => PlainTenant r.tenant) calls s := by
  induction calls generalizing s with
  | nil => trivial
  | cons r calls ih =>
    exact ⟨h r List.mem_cons_self, ih (fun r' hr' => h r' (List.mem_cons_of_mem _ hr')) _⟩

/-- **The two limiters agree.** For every configuration and every sequence of calls of plain
tenants, with the same clock readings for the takes, `MemoryLimiter::check` and
`RedisLimiter::check` give the same verdicts: admitted, or rejected at the same scope. Each
reading may be any, and the readings need not be in order. -/
theorem limiters_agree (limits : LimiterConfig) (keyPrefix : String) (failMode : FailMode)
    (calls : List Request) (hplain : ∀ r ∈ calls, PlainTenant r.tenant) :
    transcript (redisCheck ⟨keyPrefix, failMode, limits⟩) calls noBuckets
      = transcript (memoryCheck limits) calls (fun _ => none) := by
  refine transcript_eq_of_sim (SameBuckets ⟨keyPrefix, failMode, limits⟩) ?_ calls _ _
    (sameBuckets_fresh _) (along_plain hplain _)
  intro r s db h hr
  exact h.check hr

/-- Two calls of one user within a second, and then a call of another user. -/
def threeCalls : List Request :=
  [⟨⟨0, 0⟩, "a", "u"⟩, ⟨⟨500, 500⟩, "a", "u"⟩, ⟨⟨500, 501⟩, "a", "v"⟩]

/-- At one token a second for each user, both limiters reject the second call at the scope of
the user, and admit the others. -/
theorem limiters_agree_three_calls :
    (∀ r ∈ threeCalls, PlainTenant r.tenant) ∧
      (transcript (redisCheck ⟨"scg-rl", .openMode, oneForEachUser⟩) threeCalls noBuckets).map
        Prod.snd = [.admitted, .rejected .user, .admitted] := by
  have hplain : ∀ r ∈ threeCalls, PlainTenant r.tenant := by
    simp [threeCalls, PlainTenant]
  refine ⟨hplain, ?_⟩
  rw [limiters_agree oneForEachUser "scg-rl" .openMode threeCalls hplain]
  decide +kernel

end SparkGateway.Proofs.RateLimit
