import SparkGateway.Lib.BucketQuota
import SparkGateway.Lib.Tally
import SparkGateway.Proofs.Handler.ContactOrigin
import SparkGateway.Proofs.RateLimit.MemoryTable

/-!
# `SparkGateway.Proofs.Handler.Quota`: what a quota means for the backends

The rate limiter is there to protect the backends: of a tenant with `burst` and `rpcs_per_second`
no more RPCs than `burst + rpcs_per_second * time` are to reach them in any stretch of time, and
the same holds for each user with a quota per user. This is a property of the handlers and of the
limiter together. Every handler that dials or calls a backend has been let through by a `check` for
its own tenant and user, and the checks of all handlers share the buckets, in any interleaving.

`contacts_within_quota` proves it for a process with the in-memory limiter. The potential argument
is `Metered` of the library, for the table of buckets that the limiter stands for, and `Run.tally`
turns it into a bound on the handlers.
-/

set_option autoImplicit false

namespace SparkGateway.Proofs.Handler

open SparkGateway.Lib
open SparkGateway.Lib.TokenBucket
open SparkGateway.Proofs.RateLimit
open SparkGateway.Spec

/-! ### The buckets of a tenant -/

/-- The configuration of the tenant's bucket, or of that of each of its users. -/
def quotaRate (limits : LimiterConfig) (tenant : String) : Option String → BucketRate
  | none => (limits.limitsFor tenant).tenant
  | some _ => (limits.limitsFor tenant).perUser

/-- The bucket of the tenant, or of one of its users. -/
def quotaSlot (limits : LimiterConfig) (tenant : String) : Option String → Slot Memory.Key ℚ
  | none => Memory.tenantSlot limits tenant
  | some user => Memory.userSlot limits tenant user

/-- The clock reading with which a check asks for the bucket. -/
def quotaTake (now : Clock) : Option String → ℚ
  | none => now.tenantTake
  | some _ => now.userTake

section
variable {limits : LimiterConfig} {tenant : String} {who : Option String}

/-- The slot of a quota refills at the configured rate. -/
theorem quotaSlot_rate :
    (quotaSlot limits tenant who).rate = (quotaRate limits tenant who).rpcsPerSecond := by
  cases who <;> rfl

/-- The rate of an enabled quota is not negative. -/
theorem quotaSlot_rate_nonneg (hon : (quotaRate limits tenant who).isEnabled = true) :
    0 ≤ (quotaSlot limits tenant who).rate := by
  rw [quotaSlot_rate]
  exact (of_decide_eq_true (Bool.and_eq_true_iff.mp hon).1).le

/-- The slot of a quota holds the configured burst. -/
theorem quotaSlot_cap :
    (quotaSlot limits tenant who).cap = (quotaRate limits tenant who).burst := by
  cases who <;> rfl

/-- A check asks for the buckets of its own tenant and user only, each with its own reading. -/
theorem clockAsks_slot {now : Clock} {t u : String} {a : Ask RejectScope Memory.Key ℚ}
    (ha : a ∈ clockAsks limits (Memory.tenantSlot limits) (Memory.userSlot limits) now t u)
    (hkey : a.slot.key = (quotaSlot limits tenant who).key) :
    a.slot = quotaSlot limits tenant who ∧ a.now = quotaTake now who := by
  unfold clockAsks at ha
  rcases List.mem_append.mp ha with ha | ha
  · -- The tenant's ask: its key is never a user's.
    obtain ⟨-, ha⟩ := List.mem_ite_nil_right.mp ha
    obtain rfl := List.mem_singleton.mp ha
    cases who with
    | none =>
      obtain rfl : t = tenant := Sum.inl.inj hkey
      exact ⟨rfl, rfl⟩
    | some user => cases hkey
  · -- The user's ask: its key names the tenant too.
    obtain ⟨-, ha⟩ := List.mem_ite_nil_right.mp ha
    obtain rfl := List.mem_singleton.mp ha
    cases who with
    | none => cases hkey
    | some user =>
      obtain ⟨rfl, rfl⟩ := Prod.mk.inj (Sum.inr.inj hkey)
      exact ⟨rfl, rfl⟩

/-- A check of the tenant asks for its bucket, if that is enabled, and so with the user's. -/
theorem clockAsks_asks (now : Clock) {user : String}
    (hon : (quotaRate limits tenant who).isEnabled = true) (hwho : ∀ u ∈ who, user = u) :
    0 < (clockAsks limits (Memory.tenantSlot limits) (Memory.userSlot limits) now tenant
      user).countP fun a => a.slot.key = (quotaSlot limits tenant who).key := by
  rw [List.countP_pos_iff]
  unfold clockAsks
  cases who with
  | none =>
    refine ⟨⟨.tenant, Memory.tenantSlot limits tenant, now.tenantTake⟩, ?_, by simp [quotaSlot]⟩
    exact List.mem_append_left _ (List.mem_ite_nil_right.mpr ⟨hon, List.mem_singleton_self _⟩)
  | some u =>
    obtain rfl := hwho u rfl
    refine ⟨⟨.user, Memory.userSlot limits tenant user, now.userTake⟩, ?_, by simp [quotaSlot]⟩
    exact List.mem_append_right _ (List.mem_ite_nil_right.mpr ⟨hon, List.mem_singleton_self _⟩)

/-- The takes of one check are in order of time. -/
theorem clockAsks_times (limits : LimiterConfig) {now : Clock}
    (hnow : now.tenantTake ≤ now.userTake) (t u : String) :
    let as := clockAsks limits (Memory.tenantSlot limits) (Memory.userSlot limits) now t u
    (as.map (·.now)).Pairwise (· ≤ ·) ∧
      ∀ a ∈ as, now.tenantTake ≤ a.now ∧ a.now ≤ now.userTake := by
  unfold clockAsks
  split <;> split <;> simp [hnow]

end

section
variable {ι : Type} [DecidableEq ι] {P : PoolId → PoolModel} {limits : LimiterConfig}
  {c c' : Config (GatewaySig MemorySig) (ProcessState P) ι (Except Status Response)}
  {rec : ProcessRecord P ι}

/-! ### One step -/

/-- The step admits a check of the tenant, and of the user if one is given, and the clock reading
with which the check took the token of that bucket is in the window. -/
def AdmittedIn (limits : LimiterConfig) (since til : ℚ) (tenant : String) (who : Option String)
    (rec : ProcessRecord P ι) : Prop :=
  ∃ i user now, (∀ u ∈ who, user = u) ∧
    rec.actor = some (i, ⟨.inr (.check tenant user), .admitted⟩) ∧
    rec.pre.clock ≤ now.tenantTake ∧ now.tenantTake ≤ now.userTake ∧
    rec.pre.check limits now tenant user = (.admitted, rec.post) ∧
    since ≤ quotaTake now who ∧ quotaTake now who ≤ til

/-- A step that changes the limiter or the clock is a check. -/
theorem limiter_cases (h : Step (processSemantics P limits) c rec c') :
    (rec.post.limiter = rec.pre.limiter ∧ rec.post.clock = rec.pre.clock ∧
      ∀ since til tenant who, ¬ AdmittedIn limits since til tenant who rec) ∨
    ∃ i tenant user now verdict,
      rec.actor = some (i, ⟨.inr (.check tenant user), verdict⟩) ∧
      rec.pre.clock ≤ now.tenantTake ∧ now.tenantTake ≤ now.userTake ∧
      rec.pre.check limits now tenant user = (verdict, rec.post) := by
  cases h with
  | env henv =>
    -- A pool moves: the limiter is not touched.
    obtain ⟨pool, q, -, rfl⟩ := henv
    refine .inl ⟨rfl, rfl, ?_⟩
    rintro since til tenant who ⟨i, user, now, -, hact, -⟩
    cases hact
  | @cmd i cmd k r s' hth hcmd =>
    rcases cmd with (cmd | cmd) | cmd
    · cases cmd
      cases hcmd
      refine .inl ⟨rfl, rfl, ?_⟩
      rintro since til tenant who ⟨i, user, now, -, hact, -⟩
      cases hact
    · cases hcmd
      refine .inl ⟨rfl, rfl, ?_⟩
      rintro since til tenant who ⟨i, user, now, -, hact, -⟩
      cases hact
    · cases cmd with
      | check tenant user =>
        -- Only a check asks the limiter.
        obtain ⟨now, hclock, htakes, hcheck⟩ := hcmd
        exact .inr ⟨i, tenant, user, now, r, rfl, hclock, htakes, hcheck⟩
      | _ =>
        obtain rfl : s' = c.shared := hcmd
        refine .inl ⟨rfl, rfl, ?_⟩
        rintro since til tenant who ⟨i, user, now, -, hact, -⟩
        cases hact

/-- What holds of a bucket along a run, when `n` admitted checks were counted in the window. -/
structure WithinQuota (limits : LimiterConfig) (d : Slot Memory.Key ℚ) (since til : ℚ) (n : ℕ)
    (s : ProcessState P) : Prop where
  inv : Memory.Inv limits s.limiter
  metered : s.clock ≤ til → Metered d since s.clock n (Memory.abs limits s.limiter)
  bound : (n : ℚ) ≤ d.cap + (til - since) * d.rate

section
variable {since til : ℚ} {tenant : String} {who : Option String} {n : ℕ}

/-- A quota that bounds a count bounds a smaller one. -/
theorem WithinQuota.anti {d : Slot Memory.Key ℚ} {s : ProcessState P}
    (h : WithinQuota limits d since til n s) {fewer : ℕ} (hle : fewer ≤ n) :
    WithinQuota limits d since til fewer s :=
  ⟨h.inv, fun hopen => (h.metered hopen).anti hle, le_trans (Nat.cast_le.mpr hle) h.bound⟩

/-- A check, as the bucket sees it. -/
theorem metered_check {s s' : ProcessState P} {now : Clock} {t u : String} {verdict : Verdict}
    (hinv : Memory.Inv limits s.limiter)
    (hmetered : Metered (quotaSlot limits tenant who) since s.clock n
      (Memory.abs limits s.limiter))
    (hrate : 0 ≤ (quotaSlot limits tenant who).rate) (counted : Bool)
    (hcounted : counted = true → since ≤ quotaTake now who) (hclock : s.clock ≤ now.tenantTake)
    (htakes : now.tenantTake ≤ now.userTake)
    (hcheck : s.check limits now t u = (verdict, s')) :
    Metered (quotaSlot limits tenant who) since s'.clock
      (n + if counted = true ∧ verdict = .admitted then
        (clockAsks limits (Memory.tenantSlot limits) (Memory.userSlot limits) now t u).countP
          (fun a => a.slot.key = (quotaSlot limits tenant who).key) else 0)
      (Memory.abs limits s'.limiter) := by
  obtain ⟨hverdict, habs, -⟩ := Memory.check_charge limits now t u s.limiter hinv
  obtain ⟨rfl, rfl⟩ := Prod.mk.inj hcheck
  -- The two takes come in order, and not before the clock.
  obtain ⟨hsorted, hbetween⟩ := clockAsks_times limits htakes t u
  have hcharge := hmetered.charge hrate
    (fun hc a ha hkey => le_of_le_of_eq (hcounted hc) (clockAsks_slot ha hkey).2.symm) hsorted
    (fun a ha => le_trans hclock (hbetween a ha).1) (le_trans hclock htakes)
    (fun a ha => (hbetween a ha).2) fun a ha hkey => (clockAsks_slot ha hkey).1
  show Metered _ _ now.userTake _ (Memory.abs limits (MemoryLimiter.check limits now t u _).2)
  simp only [habs, hverdict, verdictOf_eq_admitted]
  exact hcharge

/-- An admitted check of the tenant, and of the user if one is given, fits under the quota at the
time when it takes its token. -/
theorem quota_at_check {s s' : ProcessState P} {now : Clock} {user : String}
    (hinv : Memory.Inv limits s.limiter)
    (hmetered : Metered (quotaSlot limits tenant who) since s.clock n
      (Memory.abs limits s.limiter))
    (hon : (quotaRate limits tenant who).isEnabled = true) (hwho : ∀ u ∈ who, user = u)
    (hclock : s.clock ≤ now.tenantTake) (htakes : now.tenantTake ≤ now.userTake)
    (hcheck : s.check limits now tenant user = (.admitted, s'))
    (hsince : since ≤ quotaTake now who) :
    ((n + 1 : ℕ) : ℚ) ≤ (quotaSlot limits tenant who).cap +
      (quotaTake now who - since) * (quotaSlot limits tenant who).rate := by
  have hverdict := (Memory.check_charge limits now tenant user s.limiter hinv).1
  have hadmitted : (MemoryLimiter.check limits now tenant user s.limiter).1 = .admitted :=
    congrArg Prod.fst hcheck
  rw [hverdict, verdictOf_eq_admitted] at hadmitted
  obtain ⟨hsorted, hbetween⟩ := clockAsks_times limits htakes tenant user
  -- One of the asks of this call is for the slot, so its token is among those given.
  obtain ⟨a, ha, hself⟩ := List.countP_pos_iff.mp (clockAsks_asks now hon hwho)
  obtain ⟨-, htake⟩ := clockAsks_slot ha (of_decide_eq_true hself)
  rw [← htake] at hsince ⊢
  exact hmetered.charge_given_le (quotaSlot_rate_nonneg hon) hsorted
    (fun b hb => le_trans hclock (hbetween b hb).1) (fun b hb hkey => (clockAsks_slot hb hkey).1)
    hadmitted ha (of_decide_eq_true hself) hsince

/-- The first reading of a check is not after the one for the bucket, and that is not after the
last. -/
theorem quotaTake_between (who : Option String) {now : Clock}
    (htakes : now.tenantTake ≤ now.userTake) :
    now.tenantTake ≤ quotaTake now who ∧ quotaTake now who ≤ now.userTake := by
  cases who with
  | none => exact ⟨le_refl _, htakes⟩
  | some u => exact ⟨htakes, le_refl _⟩

/-- One step, and one more check in the window if the step admits one. -/
theorem WithinQuota.step
    (h : WithinQuota limits (quotaSlot limits tenant who) since til n c.shared)
    (hon : (quotaRate limits tenant who).isEnabled = true)
    (hstep : Step (processSemantics P limits) c rec c') :
    WithinQuota limits (quotaSlot limits tenant who) since til n c'.shared ∧
      (AdmittedIn limits since til tenant who rec →
        WithinQuota limits (quotaSlot limits tenant who) since til (n + 1) c'.shared) := by
  have hrate := quotaSlot_rate_nonneg hon
  obtain ⟨hpre, hpost⟩ := hstep.shared
  rcases limiter_cases hstep with ⟨hlimiter, hclock, hnone⟩ |
    ⟨i, t, u, now, verdict, hact, hclock, htakes, hcheck⟩
  · rw [hpre, hpost] at hlimiter hclock
    refine ⟨⟨hlimiter ▸ h.inv, ?_, h.bound⟩, ?_⟩
    · rw [hlimiter, hclock]
      exact h.metered
    · exact fun hadmits => absurd hadmits (hnone _ _ _ _)
  · rw [hpre] at hclock hcheck
    rw [hpost] at hcheck
    have hafter : (c.shared.check limits now t u).2 = c'.shared := congrArg Prod.snd hcheck
    have hinv : Memory.Inv limits c'.shared.limiter := by
      rw [← hafter]
      exact (Memory.check_charge limits now t u c.shared.limiter h.inv).2.2
    have hlater : c.shared.clock ≤ c'.shared.clock := by
      rw [← hafter]
      exact le_trans hclock htakes
    refine ⟨⟨hinv, fun hopen => ?_, h.bound⟩, ?_⟩
    · have hmetered := metered_check h.inv (h.metered (le_trans hlater hopen)) hrate
        false (fun hc => absurd hc Bool.false_ne_true) hclock htakes hcheck
      simpa using hmetered
    · -- The check is counted with the readings that put it in the window.
      rintro ⟨j, user, now', hwho, -, hclock', htakes', hcheck', hsince, htil⟩
      rw [hpre] at hclock' hcheck'
      rw [hpost] at hcheck'
      have hbetween := quotaTake_between who htakes'
      have hmetered := h.metered (le_trans hclock' (le_trans hbetween.1 htil))
      refine ⟨hinv, fun _ => ?_, ?_⟩
      · have hcounted := metered_check h.inv hmetered hrate true (fun _ => hsince) hclock' htakes'
          hcheck'
        rw [if_pos ⟨rfl, rfl⟩] at hcounted
        exact hcounted.anti (Nat.add_le_add_left (clockAsks_asks now' hon hwho) n)
      · have hquota := quota_at_check h.inv hmetered hon hwho hclock' htakes' hcheck' hsince
        have hrest := mul_le_mul_of_nonneg_right (sub_le_sub_right htil since) hrate
        exact le_trans hquota (add_le_add_right hrest _)

/-- A limiter without buckets. -/
theorem withinQuota_fresh {s : ProcessState P} (hfresh : s.limiter = fun _ => none)
    (hon : (quotaRate limits tenant who).isEnabled = true) (hle : since ≤ til) :
    WithinQuota limits (quotaSlot limits tenant who) since til 0 s := by
  have hrate := quotaSlot_rate_nonneg hon
  have hcap : 0 ≤ (quotaSlot limits tenant who).cap := by
    rw [quotaSlot_cap]
    exact Nat.cast_nonneg _
  have habs : Memory.abs limits (fun _ => none) = fun _ => none := by
    funext key
    rcases key with t | ⟨t, u⟩ <;> simp [Memory.abs]
  refine ⟨?_, fun _ => ?_, ?_⟩
  · rw [hfresh]
    exact fun _ _ h => nomatch h
  · rw [hfresh, habs]
    exact metered_empty hcap since s.clock
  · rw [Nat.cast_zero]
    exact add_nonneg hcap (mul_nonneg (sub_nonneg.mpr hle) hrate)

/-- The quota along a run. -/
theorem withinQuota_run {gw : Gateway MemorySig} {rpc : ι → Rpc} {s : ProcessState P}
    {t : List (ProcessRecord P ι)} (hfresh : s.limiter = fun _ => none)
    (hon : (quotaRate limits tenant who).isEnabled = true) (hle : since ≤ til)
    (hrun : Run (processSemantics P limits) (process gw rpc s) t c) :
    WithinQuota limits (quotaSlot limits tenant who) since til
      (actors (AdmittedIn limits since til tenant who) t).ncard c.shared :=
  hrun.tally (W := fun _ n s => WithinQuota limits (quotaSlot limits tenant who) since til n s)
    (withinQuota_fresh hfresh hon hle) (fun _ _ _ _ hle' h => h.anti hle')
    fun _ _ _ _ _ _ hstep _ h => h.step hon hstep

end

end

/-! ### The backends -/

section
variable {ι : Type} [DecidableEq ι] {P : PoolId → PoolModel} {limits : LimiterConfig}
  {gw : Gateway MemorySig} {rpc : ι → Rpc} {s : ProcessState P}
  {c : Config (GatewaySig MemorySig) (ProcessState P) ι (Except Status Response)}
  {t : List (ProcessRecord P ι)}

/-- The handlers that have dialled or called a backend. -/
def contacting (t : List (ProcessRecord P ι)) : Set ι :=
  { i | ∃ e ∈ eventsOf i t, contactOf e.1 ≠ none }

/-- **No more RPCs reach the backends than the quotas allow.** In every run of a process with the
in-memory limiter, every handler that dials or calls a backend was admitted by a check of its own
tenant and user. And take any stretch of time, and the handlers with an admitted check of a tenant
that took the tenant's token in it, or with one of a user of the tenant that took the user's token
in it. At most the burst plus the rate times the length of the stretch of these handlers ever
contact a backend. -/
theorem contacts_within_quota (hstore : gw.router.store = MemoryStore.store)
    (hlimited : gw.rateLimited = true) (hfresh : s.limiter = fun _ => none)
    (hrun : Run (processSemantics P limits) (process gw rpc s) t c) :
    (∀ i ∈ contacting t, ∃ id tenant, Admitted gw (rpc i) (eventsOf i t) id tenant ∧
      ∃ rec ∈ t, rec.actor = some (i, ⟨.inr (.check tenant id.userId), .admitted⟩)) ∧
    ∀ tenant who, (quotaRate limits tenant who).isEnabled = true → ∀ since til, since ≤ til →
      ((contacting t ∩ actors (AdmittedIn limits since til tenant who) t).ncard : ℚ) ≤
        (quotaRate limits tenant who).burst +
          (quotaRate limits tenant who).rpcsPerSecond * (til - since) := by
  refine ⟨?_, ?_⟩
  · -- A contact comes after an admission, and with a limiter that is an admitted check.
    rintro i ⟨e, hmem, hcontact⟩
    obtain ⟨addr, haddr⟩ := Option.ne_none_iff_exists'.mp hcontact
    obtain ⟨rec, hrec, hact⟩ := mem_eventsOf.mp hmem
    obtain ⟨before, after, rfl⟩ := List.append_of_mem hrec
    obtain ⟨id, tenant, hadm, -⟩ := contact_obtained (contract_of_run hstore hrun hact) haddr
    have hbefore : eventsOf i before <+: eventsOf i (before ++ rec :: after) := by
      rw [eventsOf_append]
      exact List.prefix_append _ _
    have hadm' := hadm.extend hbefore
    obtain ⟨rec', hrec', hact'⟩ := mem_eventsOf.mp (hadm'.checked hlimited)
    exact ⟨id, tenant, hadm', rec', hrec', hact'⟩
  · intro tenant who hon since til hle
    -- The contacting programs of the window are among the admitted ones, which the buckets bound.
    have hcard := Set.ncard_le_ncard (Set.inter_subset_right (s := contacting t))
      (finite_actors (AdmittedIn limits since til tenant who) t)
    have hbound := (withinQuota_run hfresh hon hle hrun).bound
    rw [quotaSlot_cap, quotaSlot_rate, mul_comm] at hbound
    exact le_trans (Nat.cast_le.mpr hcard) hbound

end

namespace Burst

/-- One call per second, without a reserve. -/
def limits : LimiterConfig := ⟨fun _ => none, ⟨⟨1, 1⟩, .disabled⟩⟩

/-- The gateway of `Handover`, with a limiter. -/
def gateway : Gateway MemorySig := { Handover.gateway with rateLimited := true }

/-- Alice calls. -/
def rpc (_ : ℕ) : Rpc := .request (fun _ => none) (.config Handover.message)

/-- The answers of the process at the time `now`. -/
def handler (now : ℚ) : Handler (GatewaySig MemorySig) (ProcessState staticPools)
  | .inr (.check tenant user), s =>
      s.check limits ⟨max s.clock now, max s.clock now⟩ tenant user
  | c, s => processHandler staticPools limits (.healthy (.user "alice") "") c s

/-- The answers of the example are among those that the process allows. -/
theorem handler_allowed (now : ℚ) (c : (GatewaySig MemorySig).Cmd)
    (s : ProcessState staticPools) :
    (processSemantics staticPools limits).cmd c s (handler now c s).1 (handler now c s).2 := by
  rcases c with c | c
  · exact processHandler_allowed _ _ _ _ _
  · cases c with
    | check tenant user => exact ⟨_, le_max_left _ _, le_refl _, rfl⟩
    | _ => rfl

/-- Two calls at the same time, and a third one after a pause of five seconds. -/
def records : List (ProcessRecord staticPools ℕ) :=
  (schedule (fun i => handler (if i = 2 then 5 else 0))
    [0, 1, 0, 1, 0, 1, 0, 0, 0, 0, 0, 0, 2, 2, 2, 2, 2, 2, 2, 2, 2]
    (process gateway rpc Handover.start)).1

/-- The example is a run of the process. -/
theorem run : ∃ c, Run (processSemantics staticPools limits)
    (process gateway rpc Handover.start) records c :=
  ⟨_, schedule_run (fun _ => handler_allowed _) _ _⟩

end Burst

/-- One of the two calls at the same time reaches a backend, and so does the one after the pause;
each stretch of no length has at most one of them. -/
theorem contacts_within_quota_burst : 0 ∈ contacting Burst.records ∧
    2 ∈ contacting Burst.records ∧
    2 ∈ actors (AdmittedIn Burst.limits 5 5 "default" none) Burst.records ∧
    ∀ now, ((contacting Burst.records ∩
      actors (AdmittedIn Burst.limits now now "default" none) Burst.records).ncard : ℚ) ≤ 1 := by
  obtain ⟨c, hrun⟩ := Burst.run
  have hcontacting : ∀ i, ((eventsOf i Burst.records).any fun e => (contactOf e.1).isSome) = true →
      i ∈ contacting Burst.records := by
    intro i hany
    obtain ⟨e, hmem, hcontact⟩ := List.any_eq_true.mp hany
    exact ⟨e, hmem, Option.isSome_iff_ne_none.mp hcontact⟩
  refine ⟨hcontacting 0 (by decide +kernel), hcontacting 2 (by decide +kernel), ?_, fun now => ?_⟩
  · -- The check of the third call is the fifteenth step.
    exact ⟨Burst.records.get ⟨14, by decide +kernel⟩, List.get_mem _ _,
      ⟨2, "alice", ⟨5, 5⟩, fun u hu => (nomatch hu), by with_unfolding_all rfl,
        by decide +kernel, le_refl _, by with_unfolding_all rfl, le_refl _, le_refl _⟩,
      ⟨.inr (.check "default" "alice"), .admitted⟩, by with_unfolding_all rfl⟩
  · have hquota := (contacts_within_quota rfl rfl rfl hrun).2 "default" none (by decide +kernel)
      now now (le_refl now)
    simpa [quotaRate, LimiterConfig.limitsFor, Burst.limits] using hquota

end SparkGateway.Proofs.Handler
