import SparkGateway.Proofs.RateLimit.BucketLaw
import SparkGateway.Proofs.RateLimit.TenantIsolation
import SparkGateway.Spec.RateLimitSettings

/-!
# `SparkGateway.Proofs.RateLimit.TenantQuota`: is a configured rate a quota?

A tenant with a rate is to be admitted at most `burst + rate * length` times in every window of
time. `TenantQuota` says so for the limiter that `build_rate_limiter` returns, over all runs of
calls of any tenants and users.

The calls of a tenant take from one bucket. `admittedTimes_sublist` projects a run to that
bucket: the admitted calls are among its successful takes, and `successes_window_le` bounds
those. This needs the tenant bucket to be enabled. `BucketRate::is_enabled` also asks for a
positive burst, so a rate without a burst is no limit at all, and `tenantQuota_iff` says that
this is the only exception.
-/

set_option autoImplicit false

namespace SparkGateway.Proofs.RateLimit

open SparkGateway.Lib
open SparkGateway.Lib.TokenBucket
open SparkGateway.Spec

/-- A call of `MemoryLimiter::check`, with its clock readings in seconds. -/
def limiterStep (limits : LimiterConfig) (r : Request) (s : MemoryLimiter.State) :
    Verdict × MemoryLimiter.State :=
  MemoryLimiter.check limits r.now r.tenant r.user s

/-- The times of the tenant's calls. -/
def tenantTimes (tenant : String) (calls : List Request) : List ℚ :=
  (calls.filter (·.tenant = tenant)).map (·.now.tenantTake)

/-- The times of the tenant's admitted calls in a run. -/
def admittedTimes (tenant : String) (run : List (Request × Verdict)) : List ℚ :=
  (run.filter fun e => e.1.tenant = tenant ∧ e.2 = .admitted).map (·.1.now.tenantTake)

/-- The settings in force for a tenant: its override, else the default. -/
def effectiveSettings (cfg : RateLimitSettings) (tenant : String) : BucketSettings :=
  (cfg.overrides tenant).getD cfg.default

/-- In every run in order of time and in every window, at most the burst plus the rate times the
length of the window of the tenant's calls are admitted. -/
def TenantQuota (cfg : RateLimitSettings) (tenant : String) : Prop :=
  ∀ limits, buildRateLimiter cfg = some (.memory limits) →
    ∀ calls : List Request, InOrder calls → ∀ since til : ℚ, since ≤ til →
      (((admittedTimes tenant (transcript (limiterStep limits) calls fun _ => none)).filter
          fun t => since ≤ t ∧ t ≤ til).length : ℚ)
        ≤ (effectiveSettings cfg tenant).burst
          + (effectiveSettings cfg tenant).rpcsPerSecond * (til - since)

/-! ### A run as its tenant's bucket sees it -/

section
variable {limits : LimiterConfig} {tenant : String}

/-- Asking the user bucket leaves the tenant's bucket as it is. -/
theorem userStage_tenantBucket (now : ℚ) (user : String) (e : TenantState)
    (s : MemoryLimiter.State) :
    ((Memory.userStage limits now tenant user e s).2 tenant).map (·.tenantBucket)
      = some e.tenantBucket := by
  simp only [Memory.userStage, apply_ite Prod.snd, ite_self, Function.update_self,
    Option.map_some]

/-- Asking a user bucket of another tenant leaves the tenant's entry as it is. -/
theorem userStage_other {t : String} (ht : t ≠ tenant) (now : ℚ) (user : String) (e : TenantState)
    (s : MemoryLimiter.State) : (Memory.userStage limits now t user e s).2 tenant = s tenant := by
  simp only [Memory.userStage, apply_ite Prod.snd, ite_self, Function.update_of_ne (Ne.symm ht)]

/-- A call of the tenant takes from the tenant's bucket, and is admitted only with a token. -/
theorem limiterStep_own (hon : (limits.limitsFor tenant).tenant.isEnabled = true) {r : Request}
    (hr : r.tenant = tenant) (s : MemoryLimiter.State) :
    let taken := (Memory.entryOf limits r.now.tenantTake tenant s).tenantBucket.tryTake
      r.now.tenantTake
    ((limiterStep limits r s).1 = .admitted → taken.1 = true) ∧
      ((limiterStep limits r s).2 tenant).map (·.tenantBucket) = some taken.2 := by
  subst hr
  unfold limiterStep
  rw [Memory.check_tenant_on r.now hon]
  dsimp only
  cases ((Memory.entryOf limits r.now.tenantTake r.tenant s).tenantBucket.tryTake
    r.now.tenantTake).1 with
  | false => simp [Memory.chargedEntry]
  | true =>
    refine ⟨fun _ => rfl, ?_⟩
    simp only [Bool.not_true, Bool.false_eq_true, if_false]
    split
    · exact userStage_tenantBucket _ _ _ _
    · simp [Memory.chargedEntry]

/-- A call of another tenant leaves the tenant's entry as it is. -/
theorem limiterStep_other {r : Request} (hr : r.tenant ≠ tenant) (s : MemoryLimiter.State) :
    (limiterStep limits r s).2 tenant = s tenant := by
  -- Whatever a call does, it writes the entry of its own tenant only.
  have hupdate : ∀ e, Function.update s r.tenant (some e) tenant = s tenant :=
    fun _ => Function.update_of_ne (Ne.symm hr) _ _
  unfold limiterStep
  cases hT : (limits.limitsFor r.tenant).tenant.isEnabled with
  | true =>
    rw [Memory.check_tenant_on r.now hT]
    dsimp only
    split
    · exact hupdate _
    · split
      · exact (userStage_other hr _ _ _ _).trans (hupdate _)
      · exact hupdate _
  | false =>
    cases hU : (limits.limitsFor r.tenant).perUser.isEnabled with
    | true =>
      rw [Memory.check_tenant_off r.now hT hU]
      exact (userStage_other hr _ _ _ _).trans (hupdate _)
    | false => simp [MemoryLimiter.check, hT, hU]

/-- The admitted calls of the tenant are among the successful takes from one bucket, if that
bucket answers the tenant's calls as the tenant's own does. -/
theorem admittedTimes_sublist (hon : (limits.limitsFor tenant).tenant.isEnabled = true)
    (calls : List Request) (s : MemoryLimiter.State) (b : Bucket)
    (hb : ∀ t ∈ tenantTimes tenant calls,
      (Memory.entryOf limits t tenant s).tenantBucket.tryTake t = b.tryTake t) :
    (admittedTimes tenant (transcript (limiterStep limits) calls s)).Sublist
      (((tryTakes b (tenantTimes tenant calls)).filter (·.2)).map Prod.fst) := by
  induction calls generalizing s b with
  | nil => exact List.Sublist.refl _
  | cons r calls ih =>
    by_cases hr : r.tenant = tenant
    · obtain ⟨hadm, hbucket⟩ := limiterStep_own hon hr s
      have htimes : tenantTimes tenant (r :: calls)
          = r.now.tenantTake :: tenantTimes tenant calls := by
        simp [tenantTimes, hr]
      have htake := hb r.now.tenantTake (by simp [htimes])
      rw [htake] at hadm hbucket
      -- From here on the tenant's bucket is the one of the run.
      have hrest := ih (limiterStep limits r s).2 (b.tryTake r.now.tenantTake).2 (by
        intro t _
        obtain ⟨e, he, hbe⟩ := Option.map_eq_some_iff.mp hbucket
        rw [Memory.entryOf, he, Option.getD_some, hbe])
      rw [htimes]
      show (admittedTimes tenant ((r, _) :: _)).Sublist
        ((((r.now.tenantTake, _) :: _).filter _).map _)
      unfold admittedTimes at hrest ⊢
      by_cases hverdict : (limiterStep limits r s).1 = .admitted
      · have hsuccess : (b.tryTake r.now.tenantTake).1 = true := hadm hverdict
        rw [List.filter_cons_of_pos (by simp [hr, hverdict]),
          List.filter_cons_of_pos (by simpa using hsuccess)]
        exact hrest.cons_cons _
      · rw [List.filter_cons_of_neg (by simp [hverdict])]
        exact hrest.trans (((List.sublist_cons_self _ _).filter _).map _)
    · have htimes : tenantTimes tenant (r :: calls) = tenantTimes tenant calls := by
        simp [tenantTimes, hr]
      rw [htimes] at hb ⊢
      have hentry : ∀ t, Memory.entryOf limits t tenant (limiterStep limits r s).2
          = Memory.entryOf limits t tenant s := by
        intro t
        rw [Memory.entryOf, Memory.entryOf, limiterStep_other hr]
      have hrest := ih (limiterStep limits r s).2 b fun t ht => by rw [hentry, hb t ht]
      unfold admittedTimes at hrest ⊢
      rw [transcript, List.filter_cons_of_neg (by simp [hr])]
      exact hrest

/-- A new bucket is full at its first call, whenever it was created. -/
theorem tryTake_new {rate : BucketRate} (hrate : 0 ≤ rate.rpcsPerSecond) (created now : ℚ) :
    (Bucket.new rate created).tryTake now = (Bucket.new rate now).tryTake now := by
  have hfull : ∀ start : ℚ, bucketBalance (Bucket.new rate start) now = rate.burst := by
    intro start
    have hrefill : 0 ≤ max 0 (now - start) * rate.rpcsPerSecond :=
      mul_nonneg (le_max_left _ _) hrate
    exact min_eq_right (le_add_of_nonneg_right hrefill)
  rw [tryTake_eq, tryTake_eq, hfull, hfull]
  rfl

/-- The calls of a tenant are in order if all calls are. -/
theorem tenantTimes_pairwise {calls : List Request} (h : InOrder calls) (tenant : String) :
    (tenantTimes tenant calls).Pairwise (· ≤ ·) := by
  obtain ⟨hcall, hcalls⟩ := h
  have htakes : calls.Pairwise fun r r' => r.now.tenantTake ≤ r'.now.tenantTake := by
    refine hcalls.imp_of_mem fun hr _ hle => ?_
    exact le_trans (hcall _ hr) hle
  exact List.pairwise_map.mpr (htakes.filter _)

/-- With an enabled tenant bucket, the window bound for the tenant's admitted calls. -/
theorem admittedTimes_window_le (hon : (limits.limitsFor tenant).tenant.isEnabled = true)
    {calls : List Request} (hord : InOrder calls) {since til : ℚ} (hle : since ≤ til) :
    (((admittedTimes tenant (transcript (limiterStep limits) calls fun _ => none)).filter
        fun t => since ≤ t ∧ t ≤ til).length : ℚ)
      ≤ (limits.limitsFor tenant).tenant.burst
        + (limits.limitsFor tenant).tenant.rpcsPerSecond * (til - since) := by
  obtain ⟨hr, -⟩ := Bool.and_eq_true_iff.mp hon
  have hrate : 0 ≤ (limits.limitsFor tenant).tenant.rpcsPerSecond := (of_decide_eq_true hr).le
  -- The bucket of the run, created before the tenant's first call.
  obtain ⟨created, hcreated⟩ : ∃ created, Ordered created (tenantTimes tenant calls) := by
    have htimes := tenantTimes_pairwise hord tenant
    cases hts : tenantTimes tenant calls with
    | nil => exact ⟨0, List.pairwise_singleton _ _⟩
    | cons t ts =>
      rw [hts] at htimes
      refine ⟨t, List.pairwise_cons.mpr ⟨fun t' ht' => ?_, htimes⟩⟩
      rcases List.mem_cons.mp ht' with rfl | ht'
      · exact le_refl _
      · exact (List.pairwise_cons.mp htimes).1 t' ht'
  have hsub := admittedTimes_sublist hon calls (fun _ => none)
    (Bucket.new (limits.limitsFor tenant).tenant created)
    (fun t _ => (tryTake_new hrate created t).symm)
  have hlen := (hsub.filter fun t => decide (since ≤ t ∧ t ≤ til)).length_le
  have hbound := @successes_window_le ℚ _ _ _ ((limits.limitsFor tenant).tenant.burst : ℚ)
    _ created _ hrate (Nat.cast_nonneg _) hcreated since til hle
  rw [← tryTakes_eq] at hbound
  refine le_trans (Nat.cast_le.mpr (le_trans hlen (le_of_eq ?_))) hbound
  rw [List.filter_map, List.length_map, List.filter_filter, successes, List.countP_filter,
    List.countP_eq_length_filter]
  exact congrArg List.length (List.filter_congr fun c _ => Bool.and_comm _ _)

end

/-! ### Configured limits -/

section
variable {cfg : RateLimitSettings} {tenant : String}

/-- The limits of a tenant are its effective settings. -/
theorem limitsFor_of_build {limits : LimiterConfig}
    (h : buildRateLimiter cfg = some (.memory limits)) (tenant : String) :
    limits.limitsFor tenant = tenantLimitsFrom (effectiveSettings cfg tenant) := by
  unfold buildRateLimiter at h
  split at h
  · cases h
  · cases hstore : cfg.store with
    | redis => simp [hstore] at h
    | memory =>
      simp only [hstore, Option.some.injEq, RateLimiter.memory.injEq] at h
      subst h
      show ((cfg.overrides tenant).map tenantLimitsFrom).getD (tenantLimitsFrom cfg.default)
        = tenantLimitsFrom ((cfg.overrides tenant).getD cfg.default)
      rw [Option.getD_map]

/-- A configured rate and burst are a quota. -/
theorem tenantQuota_of_burst (hrate : 0 < (effectiveSettings cfg tenant).rpcsPerSecond)
    (hburst : 0 < (effectiveSettings cfg tenant).burst) : TenantQuota cfg tenant := by
  intro limits hbuild calls hord since til hle
  have hlimits := limitsFor_of_build hbuild tenant
  have hon : (limits.limitsFor tenant).tenant.isEnabled = true := by
    rw [hlimits]
    exact Bool.and_eq_true_iff.mpr ⟨decide_eq_true hrate, decide_eq_true hburst⟩
  have hbound := admittedTimes_window_le hon hord hle
  rw [hlimits] at hbound
  exact hbound

/-- The first call of a tenant whose tenant bucket is disabled is admitted. -/
theorem check_first_admitted {limits : LimiterConfig}
    (hoff : (limits.limitsFor tenant).tenant.isEnabled = false) (now : Clock) (user : String) :
    (MemoryLimiter.check limits now tenant user fun _ => none).1 = .admitted := by
  cases hU : (limits.limitsFor tenant).perUser.isEnabled with
  | false => simp [MemoryLimiter.check, hoff, hU]
  | true =>
    have hburst : (1 : ℚ) ≤ (limits.limitsFor tenant).perUser.burst :=
      Nat.one_le_cast.mpr (of_decide_eq_true (Bool.and_eq_true_iff.mp hU).2)
    have htake : ((Bucket.new (limits.limitsFor tenant).perUser now.userTake).tryTake
        now.userTake).1 = true := by
      rw [tryTake_eq, bucketBalance_new, take_of_le hburst]
    rw [Memory.check_tenant_off now hoff hU]
    simp [Memory.userStage, Memory.entryOf, htake]

/-- Without a burst, already one call is more than the quota of a window of no length. -/
theorem not_tenantQuota_of_no_burst (henabled : cfg.enabled = true) (hstore : cfg.store = .memory)
    (hburst : (effectiveSettings cfg tenant).burst = 0) : ¬ TenantQuota cfg tenant := by
  intro hquota
  obtain ⟨limits, hbuild⟩ : ∃ limits, buildRateLimiter cfg = some (.memory limits) := by
    simp [buildRateLimiter, henabled, hstore]
  have hoff : (limits.limitsFor tenant).tenant.isEnabled = false := by
    rw [limitsFor_of_build hbuild]
    simp [tenantLimitsFrom, bucketRate, BucketRate.isEnabled, hburst]
  have hone := hquota limits hbuild [⟨⟨0, 0⟩, tenant, ""⟩] (by simp [InOrder]) 0 0 (le_refl _)
  have hadmitted := check_first_admitted hoff ⟨0, 0⟩ ""
  rw [hburst, sub_self, mul_zero] at hone
  have hcount : admittedTimes tenant
      (transcript (limiterStep limits) [⟨⟨0, 0⟩, tenant, ""⟩] fun _ => none) = [0] := by
    simp [admittedTimes, transcript, limiterStep, hadmitted]
  rw [hcount] at hone
  norm_num at hone

end

/-- **When a configured rate is a quota.** With the in-memory limiter enabled and a positive rate
for the tenant, the quota holds over all runs and windows exactly if the burst is positive. -/
theorem tenantQuota_iff (cfg : RateLimitSettings) (tenant : String) (henabled : cfg.enabled = true)
    (hstore : cfg.store = .memory) (hrate : 0 < (effectiveSettings cfg tenant).rpcsPerSecond) :
    TenantQuota cfg tenant ↔ 0 < (effectiveSettings cfg tenant).burst := by
  constructor
  · intro hquota
    by_contra hzero
    exact not_tenantQuota_of_no_burst henabled hstore (Nat.eq_zero_of_not_pos hzero) hquota
  · exact tenantQuota_of_burst hrate

/-- The default of the documentation, 100 a second with a burst of 200. -/
theorem tenantQuota_documented_default :
    TenantQuota { enabled := true, default := { rpcsPerSecond := 100, burst := 200 } } "team-a" :=
  (tenantQuota_iff _ "team-a" rfl rfl (by decide +kernel)).mpr (by decide +kernel)

/-- A rate of 10 a second without a burst, which then is zero, is no quota. -/
theorem not_tenantQuota_missing_burst :
    ¬ TenantQuota { enabled := true, default := { rpcsPerSecond := 10 } } "team-a" := by
  refine not_tenantQuota_of_no_burst rfl rfl ?_
  decide +kernel

end SparkGateway.Proofs.RateLimit
