import SparkGateway.Proofs.RateLimit.TableModel

/-!
# `SparkGateway.Proofs.RateLimit.MemoryTable`: the in-memory limiter is a table

`MemoryLimiter::check` works on nested maps: a tenant's entry holds the tenant bucket and
the buckets of the tenant's users, and each bucket carries its own rate and capacity.
`Memory.abs` flattens the maps to one table, with a key for each tenant and for each user
of a tenant. `Memory.Inv` says that each bucket was created for its tenant's configuration,
so its rate and capacity can be left out of the table. `Memory.check_charge` proves that one
`check` charges the enabled buckets, and `Memory.model` assembles the `TableModel`.
-/

set_option autoImplicit false

namespace SparkGateway.Proofs.RateLimit

open SparkGateway.Lib
open SparkGateway.Lib.TokenBucket
open SparkGateway.Spec

/-- The tokens of a bucket, refilled to `now`. -/
def bucketBalance (b : Bucket) (now : ℚ) : ℚ :=
  min (b.tokens + max 0 (now - b.lastRefill) * b.ratePerSecond) b.capacity

/-- The in-memory limiter. A bucket that does not exist yet will be created full. -/
def memoryLimiter (cfg : LimiterConfig) : Limiter MemoryLimiter.State where
  limits := cfg
  fresh := fun _ => none
  check c s := MemoryLimiter.check cfg ⟨c.now, c.now⟩ c.tenant c.user s
  tenantBalance now tenant s :=
    match s tenant with
    | some e => bucketBalance e.tenantBucket now
    | none => (cfg.limitsFor tenant).tenant.burst
  userBalance now tenant user s :=
    match (s tenant).bind (·.userBuckets user) with
    | some b => bucketBalance b now
    | none => (cfg.limitsFor tenant).perUser.burst

/-- The bucket was created for this configuration. -/
def Matches (b : Bucket) (r : BucketRate) : Prop :=
  b.ratePerSecond = r.rpcsPerSecond ∧ b.capacity = r.burst

/-- The part of a bucket that a table stores. -/
def levelOf (b : Bucket) : Level ℚ := ⟨b.tokens, b.lastRefill⟩

/-- A bucket take is a token-bucket take of the refilled balance. -/
theorem tryTake_eq (b : Bucket) (now : ℚ) :
    b.tryTake now = ((take (bucketBalance b now)).1,
      { b with tokens := (take (bucketBalance b now)).2, lastRefill := now }) := by
  unfold Bucket.tryTake take bucketBalance
  simp only [ge_iff_le]
  split <;> rfl

/-- A new bucket is full. -/
theorem bucketBalance_new (r : BucketRate) (now : ℚ) :
    bucketBalance (Bucket.new r now) now = r.burst := by
  simp [bucketBalance, Bucket.new]

/-- A bucket's balance is the balance of its level. -/
theorem bucketBalance_eq {b : Bucket} {r : BucketRate} (h : Matches b r) (now : ℚ) :
    bucketBalance b now = refill (r.burst : ℚ) r.rpcsPerSecond
      (max 0 (now - (levelOf b).last)) (levelOf b).tokens := by
  rw [bucketBalance, refill, min_comm, h.1, h.2]
  rfl

namespace Memory

/-- The buckets of the in-memory limiter: one for each tenant, and one for each user of a
tenant. -/
abbrev Key := String ⊕ String × String

/-- The slot of a tenant. -/
def tenantSlot (cfg : LimiterConfig) (t : String) : Slot Key ℚ :=
  ⟨.inl t, (cfg.limitsFor t).tenant.rpcsPerSecond, (cfg.limitsFor t).tenant.burst⟩

/-- The slot of a user of a tenant. -/
def userSlot (cfg : LimiterConfig) (t u : String) : Slot Key ℚ :=
  ⟨.inr (t, u), (cfg.limitsFor t).perUser.rpcsPerSecond, (cfg.limitsFor t).perUser.burst⟩

/-- The nested maps as one table. The bucket of a disabled tenant is never read. -/
def abs (cfg : LimiterConfig) (s : MemoryLimiter.State) : Table Key ℚ
  | .inl t =>
      if (cfg.limitsFor t).tenant.isEnabled then (s t).map fun e => levelOf e.tenantBucket
      else none
  | .inr (t, u) => ((s t).bind (·.userBuckets u)).map levelOf

/-- Every bucket was created for the tenant's configuration. -/
def Inv (cfg : LimiterConfig) (s : MemoryLimiter.State) : Prop :=
  ∀ t e, s t = some e → Matches e.tenantBucket (cfg.limitsFor t).tenant ∧
    ∀ u b, e.userBuckets u = some b → Matches b (cfg.limitsFor t).perUser

/-- The entry of a tenant that `check` works on. -/
def entryOf (cfg : LimiterConfig) (now : ℚ) (t : String) (s : MemoryLimiter.State) :
    TenantState :=
  (s t).getD ⟨Bucket.new (cfg.limitsFor t).tenant now, fun _ => none⟩

/-- The second half of `check`: the user bucket, on an entry whose tenant bucket has given
its token. -/
def userStage (cfg : LimiterConfig) (now : ℚ) (t u : String) (e : TenantState)
    (s : MemoryLimiter.State) : Verdict × MemoryLimiter.State :=
  let taken := ((e.userBuckets u).getD (Bucket.new (cfg.limitsFor t).perUser now)).tryTake now
  let s' := Function.update s t
    (some { e with userBuckets := Function.update e.userBuckets u (some taken.2) })
  if !taken.1 then (.rejected .user, s') else (.admitted, s')

section
variable {cfg : LimiterConfig} (now : ℚ) {t u : String} {s : MemoryLimiter.State}

/-- An entry of the tenant's configuration keeps the invariant. -/
theorem inv_update (hs : Inv cfg s) {e : TenantState}
    (ht : Matches e.tenantBucket (cfg.limitsFor t).tenant)
    (hu : ∀ u b, e.userBuckets u = some b → Matches b (cfg.limitsFor t).perUser) :
    Inv cfg (Function.update s t (some e)) := by
  intro t' e' he'
  by_cases h : t' = t
  · subst h
    rw [Function.update_self, Option.some.injEq] at he'
    exact he' ▸ ⟨ht, hu⟩
  · rw [Function.update_of_ne h] at he'
    exact hs t' e' he'

/-- A new bucket is of its configuration. -/
theorem matches_new (r : BucketRate) (now : ℚ) : Matches (Bucket.new r now) r := ⟨rfl, rfl⟩

/-- A take leaves the configuration of a bucket alone. -/
theorem matches_tryTake {b : Bucket} {r : BucketRate} (h : Matches b r) :
    Matches (b.tryTake now).2 r := by
  rw [tryTake_eq]
  exact h

/-- The entry that `check` works on is of the tenant's configuration. -/
theorem entryOf_matches (hs : Inv cfg s) :
    Matches (entryOf cfg now t s).tenantBucket (cfg.limitsFor t).tenant ∧
      ∀ u b, (entryOf cfg now t s).userBuckets u = some b →
        Matches b (cfg.limitsFor t).perUser := by
  unfold entryOf
  cases he : s t with
  | none => exact ⟨matches_new _ _, by simp⟩
  | some e => exact hs t e he

/-- The tenant bucket that `check` works on has the tenant's balance. -/
theorem bucketBalance_entryOf (hs : Inv cfg s)
    (hon : (cfg.limitsFor t).tenant.isEnabled = true) :
    bucketBalance (entryOf cfg now t s).tenantBucket now
      = balance now (tenantSlot cfg t) (abs cfg s) := by
  have habs : abs cfg s (tenantSlot cfg t).key = (s t).map fun e => levelOf e.tenantBucket :=
    if_pos hon
  rw [balance, habs, entryOf]
  cases he : s t with
  | none => exact bucketBalance_new _ _
  | some e => exact bucketBalance_eq (hs t e he).1 now

/-- The user bucket that `check` works on has the user's balance. -/
theorem bucketBalance_userBucket {e : TenantState} (hs : Inv cfg s) (he : s t = some e) :
    bucketBalance ((e.userBuckets u).getD (Bucket.new (cfg.limitsFor t).perUser now)) now
      = balance now (userSlot cfg t u) (abs cfg s) := by
  have habs : abs cfg s (userSlot cfg t u).key = (e.userBuckets u).map levelOf := by
    show ((s t).bind (·.userBuckets u)).map levelOf = _
    rw [he]
    rfl
  rw [balance, habs]
  cases hb : e.userBuckets u with
  | none => exact bucketBalance_new _ _
  | some b => exact bucketBalance_eq ((hs t e he).2 u b hb) now

/-- Storing an entry whose user buckets are unchanged is storing its tenant bucket. -/
theorem abs_update_tenant (b : Bucket) (hon : (cfg.limitsFor t).tenant.isEnabled = true) :
    abs cfg (Function.update s t (some { entryOf cfg now t s with tenantBucket := b }))
      = Function.update (abs cfg s) (.inl t) (some (levelOf b)) := by
  -- The key of the tenant, another tenant's, and those of the users of either.
  funext k
  rcases k with t' | ⟨t', u'⟩ <;> by_cases h : t' = t
  · subst h
    simp [abs, hon]
  · simp [abs, h]
  · subst h
    cases he : s t' <;> simp [abs, entryOf, he]
  · simp [abs, h]

/-- With the tenant bucket disabled, creating the entry changes no bucket that is read. -/
theorem abs_update_disabled (hoff : (cfg.limitsFor t).tenant.isEnabled = false) :
    abs cfg (Function.update s t (some (entryOf cfg now t s))) = abs cfg s := by
  funext k
  rcases k with t' | ⟨t', u'⟩ <;> by_cases h : t' = t
  · subst h
    simp [abs, hoff]
  · simp [abs, h]
  · subst h
    cases he : s t' <;> simp [abs, entryOf, he]
  · simp [abs, h]

/-- Storing one user bucket. -/
theorem abs_update_user {e : TenantState} (he : s t = some e) (b : Bucket) :
    abs cfg (Function.update s t
        (some { e with userBuckets := Function.update e.userBuckets u (some b) }))
      = Function.update (abs cfg s) (.inr (t, u)) (some (levelOf b)) := by
  funext k
  rcases k with t' | ⟨t', u'⟩ <;> by_cases h : t' = t
  · subst h
    simp [abs, he]
  · simp [abs, h]
  · subst h
    by_cases hu : u' = u
    · subst hu
      simp [abs]
    · simp [abs, he, hu]
  · simp [abs, h]

/-- A take on a bucket with the balance of a slot is a take on the slot. -/
theorem tryTake_takeAt {b : Bucket} {d : Slot Key ℚ} {T : Table Key ℚ}
    (h : bucketBalance b now = balance now d T) :
    (b.tryTake now).1 = (takeAt now d T).1 ∧
      Function.update T d.key (some (levelOf (b.tryTake now).2)) = (takeAt now d T).2 := by
  rw [tryTake_eq, h]
  exact ⟨rfl, rfl⟩

/-- The second half of `check` charges the user bucket. -/
theorem userStage_eq {e : TenantState} (hs : Inv cfg s) (he : s t = some e) :
    (userStage cfg now t u e s).1
        = verdictOf (charge [⟨.user, userSlot cfg t u, now⟩] (abs cfg s)).1 ∧
      abs cfg (userStage cfg now t u e s).2
        = (charge [⟨RejectScope.user, userSlot cfg t u, now⟩] (abs cfg s)).2 := by
  obtain ⟨hfst, hsnd⟩ := tryTake_takeAt now (bucketBalance_userBucket (u := u) now hs he)
  simp only [userStage, charge, hfst, ← hsnd]
  cases (takeAt now (userSlot cfg t u) (abs cfg s)).1
  · exact ⟨rfl, abs_update_user he _⟩
  · exact ⟨rfl, abs_update_user he _⟩

/-- The user stage keeps the invariant. -/
theorem userStage_inv {e : TenantState} (hs : Inv cfg s) (he : s t = some e) :
    Inv cfg (userStage cfg now t u e s).2 := by
  have hinv : Inv cfg (Function.update s t (some { e with
      userBuckets := Function.update e.userBuckets u (some
        (((e.userBuckets u).getD
          (Bucket.new (cfg.limitsFor t).perUser now)).tryTake now).2) })) := by
    refine inv_update hs (hs t e he).1 fun u' b hb => ?_
    by_cases hu : u' = u
    · -- The user's bucket is new or was there before, and a take keeps what it was made for.
      subst hu
      simp only [Function.update_self, Option.some.injEq] at hb
      subst hb
      cases hold : e.userBuckets u' with
      | none => exact matches_tryTake now (matches_new _ _)
      | some b => exact matches_tryTake now ((hs t e he).2 u' b hold)
    · simp only [Function.update_of_ne hu] at hb
      exact (hs t e he).2 u' b hb
  simp only [userStage]
  split <;> exact hinv

/-- The entry after the tenant bucket was asked. -/
def chargedEntry (cfg : LimiterConfig) (now : ℚ) (t : String) (s : MemoryLimiter.State) :
    TenantState :=
  { entryOf cfg now t s with
    tenantBucket := ((entryOf cfg now t s).tenantBucket.tryTake now).2 }

/-- Charging the tenant bucket keeps the invariant. -/
theorem chargedEntry_inv (hs : Inv cfg s) :
    Inv cfg (Function.update s t (some (chargedEntry cfg now t s))) :=
  inv_update hs (matches_tryTake now (entryOf_matches now hs).1) (entryOf_matches now hs).2

/-- Making the entry keeps the invariant. -/
theorem entryOf_inv (hs : Inv cfg s) :
    Inv cfg (Function.update s t (some (entryOf cfg now t s))) :=
  inv_update hs (entryOf_matches now hs).1 (entryOf_matches now hs).2

/-- `check` with the tenant bucket enabled. -/
theorem check_tenant_on (now : Clock) (hon : (cfg.limitsFor t).tenant.isEnabled = true) :
    MemoryLimiter.check cfg now t u s =
      let s' := Function.update s t (some (chargedEntry cfg now.tenantTake t s))
      if !((entryOf cfg now.tenantTake t s).tenantBucket.tryTake now.tenantTake).1 then
        (.rejected .tenant, s')
      else if (cfg.limitsFor t).perUser.isEnabled then
        userStage cfg now.userTake t u (chargedEntry cfg now.tenantTake t s) s'
      else (.admitted, s') := by
  simp only [MemoryLimiter.check, hon, userStage, Function.update_idem]
  rfl

/-- `check` with only the user bucket enabled. -/
theorem check_tenant_off (now : Clock) (hoff : (cfg.limitsFor t).tenant.isEnabled = false)
    (hon : (cfg.limitsFor t).perUser.isEnabled = true) :
    MemoryLimiter.check cfg now t u s =
      userStage cfg now.userTake t u (entryOf cfg now.tenantTake t s)
        (Function.update s t (some (entryOf cfg now.tenantTake t s))) := by
  simp only [MemoryLimiter.check, hoff, hon, userStage, Function.update_idem]
  rfl

end

/-- `check` charges the enabled buckets of the call, each at the time of its take, and keeps
the invariant. -/
theorem check_charge (cfg : LimiterConfig) (now : Clock) (t u : String)
    (s : MemoryLimiter.State) (hs : Inv cfg s) :
    let r := MemoryLimiter.check cfg now t u s
    let q := charge (clockAsks cfg (tenantSlot cfg) (userSlot cfg) now t u) (abs cfg s)
    r.1 = verdictOf q.1 ∧ abs cfg r.2 = q.2 ∧ Inv cfg r.2 := by
  unfold clockAsks
  cases hT : (cfg.limitsFor t).tenant.isEnabled with
  | true =>
    obtain ⟨hfst, hsnd⟩ := tryTake_takeAt now.tenantTake
      (bucketBalance_entryOf now.tenantTake hs hT)
    have habs : abs cfg (Function.update s t (some (chargedEntry cfg now.tenantTake t s)))
        = (takeAt now.tenantTake (tenantSlot cfg t) (abs cfg s)).2 :=
      (abs_update_tenant now.tenantTake _ hT).trans hsnd
    have hinv := chargedEntry_inv now.tenantTake (t := t) hs
    -- Both sides ask the tenant bucket first.
    rw [check_tenant_on now hT, hfst]
    simp only [if_true, List.singleton_append, charge]
    cases (takeAt now.tenantTake (tenantSlot cfg t) (abs cfg s)).1 with
    | false => exact ⟨rfl, habs, hinv⟩
    | true =>
      simp only [Bool.not_true, Bool.false_eq_true, if_false, if_true]
      cases hU : (cfg.limitsFor t).perUser.isEnabled with
      | false => exact ⟨rfl, habs, hinv⟩
      | true =>
        obtain ⟨h1, h2⟩ := userStage_eq now.userTake (u := u) hinv (Function.update_self _ _ _)
        rw [habs] at h1 h2
        exact ⟨h1, h2, userStage_inv now.userTake hinv (Function.update_self _ _ _)⟩
  | false =>
    cases hU : (cfg.limitsFor t).perUser.isEnabled with
    | false =>
      have hskip : MemoryLimiter.check cfg now t u s = (.admitted, s) := by
        simp [MemoryLimiter.check, hT, hU]
      rw [hskip]
      exact ⟨rfl, rfl, hs⟩
    | true =>
      -- The entry is created with a full tenant bucket that is never read.
      have hinv := entryOf_inv now.tenantTake (t := t) hs
      obtain ⟨h1, h2⟩ := userStage_eq now.userTake (u := u) hinv (Function.update_self _ _ _)
      rw [abs_update_disabled now.tenantTake hT] at h1 h2
      rw [check_tenant_off now hT hU]
      exact ⟨h1, h2, userStage_inv now.userTake hinv (Function.update_self _ _ _)⟩

/-- `check` with one reading of the clock. -/
theorem check_eq (cfg : LimiterConfig) (c : Call) (s : MemoryLimiter.State) (hs : Inv cfg s) :
    let r := (memoryLimiter cfg).check c s
    let q := charge (asksOf cfg (tenantSlot cfg) (userSlot cfg) c) (abs cfg s)
    r.1 = verdictOf q.1 ∧ abs cfg r.2 = q.2 ∧ Inv cfg r.2 :=
  check_charge cfg ⟨c.now, c.now⟩ c.tenant c.user s hs

/-- The in-memory limiter is a table of buckets. -/
def model (cfg : LimiterConfig) : TableModel (memoryLimiter cfg) Key where
  abs := abs cfg
  Inv := Inv cfg
  tenantSlot := tenantSlot cfg
  userSlot := userSlot cfg
  inv_fresh := by
    intro t e he
    cases he
  abs_fresh := by
    intro k
    rcases k with t | ⟨t, u⟩ <;> simp [abs, memoryLimiter]
  inv_check c s hs := (check_eq cfg c s hs).2.2
  check_fst c s hs := (check_eq cfg c s hs).1
  check_snd c s hs := (check_eq cfg c s hs).2.1
  tenantBalance_eq := by
    intro now t s hs hon
    rw [← bucketBalance_entryOf now hs hon]
    simp only [memoryLimiter, entryOf]
    -- A tenant that is not there yet will get a full bucket.
    cases s t with
    | none => exact (bucketBalance_new _ _).symm
    | some e => rfl
  userBalance_eq := by
    intro now t u s hs
    simp only [memoryLimiter, balance, userSlot, abs]
    cases he : s t with
    | none => rfl
    | some e =>
      cases hb : e.userBuckets u with
      | none => simp [hb]
      | some b => simpa [hb] using bucketBalance_eq ((hs t e he).2 u b hb) now
  rate_nonneg t hon := by
    have hpos : (cfg.limitsFor t).tenant.rpcsPerSecond > 0 :=
      of_decide_eq_true (Bool.and_eq_true_iff.mp hon).1
    exact hpos.le
  tenantSlot_inj t t' h := Sum.inl.inj h
  tenantSlot_ne_userSlot t t' u h := by cases h

end Memory

end SparkGateway.Proofs.RateLimit
