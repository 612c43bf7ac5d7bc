import SparkGateway.Lib.BucketQuota
import SparkGateway.Lib.History
import SparkGateway.Lib.Schedule
import SparkGateway.Lib.Tally
import SparkGateway.Proofs.RateLimit.RedisTable
import SparkGateway.Spec.LimiterCluster

/-!
# `SparkGateway.Proofs.RateLimit.ClusterQuota`: the quota of a tenant over all replicas

Any number of replicas check the RPCs of a tenant against one bucket in Redis. Their calls are
interleaved command by command, each replica reads its own clock and has its own connection, and
each `EVAL` may be answered, fail, or be executed with its reply lost. `clusterQuota` bounds the
calls that are admitted:

* a call of a replica that fails closed is admitted only by a token, and a token is given out once;
* a call of a replica that fails open is also admitted by an error on the tenant's bucket.

So the quota of the tenant holds over the whole cluster, plus one call for each error that a
replica lets pass. There are two conditions. The bucket of the tenant does not expire. And the
scripts on the tenant's key are executed in the order of the times that were sent with them:
`take_one` does not see to that, and `Proofs/RateLimit/StaleStamps.lean` is about what happens
without it.
-/

set_option autoImplicit false

namespace SparkGateway.Proofs.RateLimit

open SparkGateway.Lib
open SparkGateway.Lib.TokenBucket
open SparkGateway.Spec

/-- An event of a `check`. -/
abbrev CheckEvent : Type := Event LimiterSig

/-- A step of the replicas. -/
abbrev ClusterRecord (ι : Type) : Type := Record LimiterSig ClusterState ι

/-- An execution of the script, with its answer. -/
def evaluated (key : String) (rate : BucketRate) (nowMs : ℚ) (reply : Option Bool) : CheckEvent :=
  ⟨.eval key rate nowMs, reply⟩

/-- The events of one `take_one`. -/
def takeEvents (replica : ℕ) (key : String) (rate : BucketRate) (nowMs : ℚ) (ticket : ℕ)
    (reply : Option Bool) : List CheckEvent :=
  [⟨.now, nowMs⟩, ⟨.queue replica, ticket⟩, ⟨.acquire replica ticket, ()⟩,
    evaluated key rate nowMs reply, ⟨.release replica, ()⟩]

/-- The time and the answer of a script on the key. -/
def evalOn (key : String) : CheckEvent → Option (ℚ × Option Bool)
  | ⟨.eval k _ nowMs, reply⟩ => if k = key then some (nowMs, reply) else none
  | _ => none

section
variable {key k : String} {rate : BucketRate} {nowMs : ℚ} {reply : Option Bool}

/-- A script on the key shows with its time and answer. -/
@[simp] theorem evalOn_self : evalOn key (evaluated key rate nowMs reply) = some (nowMs, reply) :=
  if_pos rfl

/-- A script on another key does not show. -/
theorem evalOn_of_ne (rate : BucketRate) (h : k ≠ key) :
    evalOn key (evaluated k rate nowMs reply) = none := if_neg h

/-- A `take_one` on the key executes one script on it. -/
theorem filterMap_takeEvents_self (replica ticket : ℕ) :
    (takeEvents replica key rate nowMs ticket reply).filterMap (evalOn key) =
      [(nowMs, reply)] := by
  show [evaluated key rate nowMs reply].filterMap (evalOn key) = [(nowMs, reply)]
  simp

/-- A `take_one` on another key executes none. -/
theorem filterMap_takeEvents_of_ne (replica ticket : ℕ) (h : k ≠ key) :
    (takeEvents replica k rate nowMs ticket reply).filterMap (evalOn key) = [] := by
  show [evaluated k rate nowMs reply].filterMap (evalOn key) = []
  simp [evalOn_of_ne rate h]

end

/-! ### One call -/

/-- The commands of one bucket. -/
def OnBucket (key : String) (rate : BucketRate) : LimiterCmd → Prop
  | .eval k r _ => k = key ∧ r = rate
  | _ => True

/-- An answer that lets a call go on. -/
def Passed (l : RedisLimiter) (reply : Option Bool) : Prop :=
  reply = some true ∨ reply = none ∧ l.failMode = .openMode

section
variable {A : CheckEvent → Prop} (l : RedisLimiter)

/-- One bucket of a call: a disabled one is not asked, and an enabled one once. It never admits the
call by itself. -/
theorem checkBucketSteps_obeys (replica : ℕ) (scope : RejectScope) (key : String)
    (rate : BucketRate) (es : List CheckEvent) :
    (l.checkBucketSteps replica scope key rate).Obeys A (fun _ c => OnBucket key rate c)
      (fun es' r => r ≠ some .admitted ∧ if rate.isEnabled then
        ∃ nowMs ticket reply, es' = es ++ takeEvents replica key rate nowMs ticket reply ∧
          (r = none → Passed l reply)
        else es' = es) es := by
  unfold RedisLimiter.checkBucketSteps
  cases rate.isEnabled with
  | false => exact ⟨nofun, rfl⟩
  | true =>
    refine ⟨trivial, fun (nowMs : ℚ) _ => ⟨trivial, fun (ticket : ℕ) _ => ⟨trivial, fun _ _ =>
      ⟨⟨rfl, rfl⟩, fun (reply : Option Bool) _ => ⟨trivial, fun _ _ => ?_⟩⟩⟩⟩⟩
    -- One `take_one` is these five events.
    have hes : es ++ [⟨.now, nowMs⟩] ++ [⟨.queue replica, ticket⟩] ++
        [⟨.acquire replica ticket, ()⟩] ++ [⟨.eval key rate nowMs, reply⟩] ++
        [⟨.release replica, ()⟩] = es ++ takeEvents replica key rate nowMs ticket reply := by
      simp only [List.append_assoc]
      rfl
    -- An error lets the call pass in the open mode only, and an answer only if it grants.
    rcases reply with _ | _ | _
    · show l.handleRedisError ≠ some .admitted ∧ ∃ nowMs ticket reply, _ ∧
        (l.handleRedisError = none → Passed l reply)
      unfold RedisLimiter.handleRedisError
      cases hmode : l.failMode with
      | openMode => exact ⟨nofun, nowMs, ticket, none, hes, fun _ => .inr ⟨rfl, hmode⟩⟩
      | closedMode => exact ⟨nofun, nowMs, ticket, none, hes, nofun⟩
    · exact ⟨nofun, nowMs, ticket, some false, hes, nofun⟩
    · exact ⟨nofun, nowMs, ticket, some true, hes, fun _ => .inl rfl⟩

/-- The commands of a call. -/
def CallCmd (tenant user : String) (c : LimiterCmd) : Prop :=
  OnBucket (l.tenantKey tenant) (l.limits.limitsFor tenant).tenant c ∨
    OnBucket (l.userKey tenant user) (l.limits.limitsFor tenant).perUser c

/-- A call asks for the buckets of its tenant and user. One that is admitted has asked the tenant's
bucket once, if that is enabled, and was let go on. -/
theorem checkSteps_obeys (replica : ℕ) (tenant user : String) :
    (l.checkSteps replica tenant user).Obeys A (fun _ c => CallCmd l tenant user c)
      (fun es v => v = .admitted → (l.limits.limitsFor tenant).tenant.isEnabled = true →
        ∃ nowMs reply, es.filterMap (evalOn (l.tenantKey tenant)) = [(nowMs, reply)] ∧
          Passed l reply) [] := by
  unfold RedisLimiter.checkSteps
  dsimp only
  split
  · rename_i hoff
    rintro - hon
    rw [hon] at hoff
    cases hoff
  · refine Prog.Obeys.bind (((checkBucketSteps_obeys l replica .tenant _ _ []).weaken
      fun _ _ => .inl).mono fun es₁ r₁ ⟨hr₁, hes₁⟩ => ?_)
    cases r₁ with
    | some v => exact fun hv => absurd (congrArg some hv) hr₁
    | none =>
      refine Prog.Obeys.bind (((checkBucketSteps_obeys l replica .user _ _ es₁).weaken
        fun _ _ => .inr).mono fun es₂ r₂ ⟨hr₂, hes₂⟩ => ?_)
      cases r₂ with
      | some v => exact fun hv => absurd (congrArg some hv) hr₂
      | none =>
        rintro - hon
        rw [if_pos hon] at hes₁
        obtain ⟨nowMs, ticket, reply, rfl, hpassed⟩ := hes₁
        refine ⟨nowMs, reply, ?_, hpassed rfl⟩
        split at hes₂
        · -- The user's bucket has another key.
          obtain ⟨nowMs', ticket', reply', rfl, -⟩ := hes₂
          have hkey : l.userKey tenant user ≠ l.tenantKey tenant :=
            (Redis.tenantKey_ne_userKey l tenant tenant user).symm
          rw [List.nil_append, List.filterMap_append, filterMap_takeEvents_self,
            filterMap_takeEvents_of_ne replica ticket' hkey, List.append_nil]
        · rw [hes₂, List.nil_append, filterMap_takeEvents_self]

end

/-! ### One step -/

/-- The bucket under a key, with its refill per millisecond. -/
def slotOf (key : String) (rate : BucketRate) : Slot String ℚ :=
  ⟨key, rate.rpcsPerSecond / 1000, rate.burst⟩

/-- The effect of an execution with this answer. -/
inductive Executed (d : Slot String ℚ) (nowMs : ℚ) (T T' : Table String ℚ) :
    Option Bool → Prop where
  /-- It failed. -/
  | failed (h : T' = T) : Executed d nowMs T T' none
  /-- It took what it could, and its answer was lost. -/
  | lost (h : T' = (takeAt nowMs d T).2) : Executed d nowMs T T' none
  /-- It took what it could, and answered whether that was a token. -/
  | answered (h : T' = (takeAt nowMs d T).2) : Executed d nowMs T T' (some (takeAt nowMs d T).1)

/-- An execution of the script, on the table of the buckets. -/
theorem takeOne_executed (fault : EvalFault) (key : String) (rate : BucketRate) (nowMs : ℚ)
    (db : RedisLimiter.Db) :
    Executed (slotOf key rate) nowMs (Redis.abs db)
      (Redis.abs (RedisLimiter.takeOne fault key rate nowMs db).2)
      (RedisLimiter.takeOne fault key rate nowMs db).1 := by
  have hscript := Redis.tokenBucketScript_eq rate nowMs (db key)
  rw [Redis.redisBalance_eq] at hscript
  -- The answer and the new bucket are those of a take, whether or not the reply arrives.
  have hanswer : (tokenBucketScript rate.rpcsPerSecond rate.burst nowMs (db key)).1 =
      (takeAt nowMs (slotOf key rate) (Redis.abs db)).1 := congrArg Prod.fst hscript
  have habs : Redis.abs (Function.update db key
      (some (tokenBucketScript rate.rpcsPerSecond rate.burst nowMs (db key)).2)) =
        (takeAt nowMs (slotOf key rate) (Redis.abs db)).2 := by
    rw [Redis.abs_update, hscript]
    rfl
  cases fault with
  | none =>
    show Executed _ _ _ _ (some (tokenBucketScript rate.rpcsPerSecond rate.burst nowMs (db key)).1)
    rw [hanswer]
    exact .answered habs
  | failed => exact .failed rfl
  | replyLost => exact .lost habs

section
variable {d : Slot String ℚ} {since nowMs : ℚ} {n : ℕ} {T T' : Table String ℚ}
  {reply : Option Bool}

/-- An execution whose token is not counted. -/
theorem Executed.self (h : Executed d nowMs T T' reply) (hmetered : Metered d since nowMs n T) :
    Metered d since nowMs n T' := by
  cases h with
  | failed h =>
    rw [h]
    exact hmetered
  | lost h =>
    rw [h]
    exact hmetered.takeAt_uncounted
  | answered h =>
    rw [h]
    exact hmetered.takeAt_uncounted

/-- The token of an execution that says it took one. -/
theorem Executed.token (h : Executed d nowMs T T' (some true)) (hrate : 0 ≤ d.rate)
    (hsince : since ≤ nowMs) (hmetered : Metered d since nowMs n T) :
    Metered d since nowMs (n + 1) T' := by
  generalize hreply : some true = reply at h
  cases h with
  | failed => cases hreply
  | lost => cases hreply
  | answered h =>
    rw [h]
    have htake := hmetered.takeAt_self hsince hrate
    rwa [← Option.some.inj hreply] at htake

end

section
variable {ι : Type} {reads : ℚ → ℚ → Prop} {c c' : Config LimiterSig ClusterState ι Verdict}
  {rec : ClusterRecord ι}

/-- The time and the answer of the script that a step executes on the key. -/
def stampOf (key : String) (rec : ClusterRecord ι) : Option (ℚ × Option Bool) :=
  rec.actor.bind fun a => evalOn key a.2

/-- The times of the scripts on the key, in the order of their execution. -/
def stamps (key : String) (t : List (ClusterRecord ι)) : List ℚ :=
  (t.filterMap (stampOf key)).map Prod.fst

/-- A step without a script on the key adds no stamp. -/
theorem stamps_snoc_none {key : String} (h : stampOf key rec = none)
    (t : List (ClusterRecord ι)) : stamps key (t ++ [rec]) = stamps key t := by
  simp [stamps, h]

/-- A step with a script on the key adds its stamp. -/
theorem stamps_snoc_some {key : String} {nowMs : ℚ} {reply : Option Bool}
    (h : stampOf key rec = some (nowMs, reply)) (t : List (ClusterRecord ι)) :
    stamps key (t ++ [rec]) = stamps key t ++ [nowMs] := by
  simp [stamps, h]

/-- The step executes the script on the key with this answer, and its time is in the window. -/
def AnsweredIn (key : String) (since til : ℚ) (reply : Option Bool) (rec : ClusterRecord ι) :
    Prop :=
  ∃ nowMs, stampOf key rec = some (nowMs, reply) ∧ since ≤ nowMs ∧ nowMs ≤ til

/-- The bucket under the key does not expire in the step. -/
def Unexpired (key : String) (rec : ClusterRecord ι) : Prop :=
  rec.pre.db key ≠ none → rec.post.db key ≠ none

/-- A script on another key leaves the bucket alone. -/
theorem takeOne_other (fault : EvalFault) {k key : String} (hk : k ≠ key) (rate : BucketRate)
    (nowMs : ℚ) (db : RedisLimiter.Db) :
    (RedisLimiter.takeOne fault k rate nowMs db).2 key = db key := by
  cases fault with
  | failed => rfl
  | none => exact Function.update_of_ne (Ne.symm hk) _ _
  | replyLost => exact Function.update_of_ne (Ne.symm hk) _ _

/-- What a step does to the bucket under the key: an execution on it, or nothing, if it does not
expire. -/
theorem table_cases [DecidableEq ι] (h : Step (clusterSemantics reads) c rec c') (key : String) :
    (stampOf key rec = none ∧ (Unexpired key rec → c'.shared.db key = c.shared.db key)) ∨
    ∃ i rate nowMs reply, rec.actor = some (i, evaluated key rate nowMs reply) ∧
      Executed (slotOf key rate) nowMs (Redis.abs c.shared.db) (Redis.abs c'.shared.db) reply := by
  cases h with
  | @env s' henv =>
    refine .inl ⟨rfl, fun hkept => ?_⟩
    rcases henv.2.1 key with hsame | hnone
    · exact hsame
    · -- The key is gone, so it was not there before.
      have hgone : c.shared.db key = none := by
        by_contra hbucket
        exact hkept hbucket hnone
      rw [hgone]
      exact hnone
  | @cmd i cmd _ r s' hth hcmd =>
    cases cmd with
    | now =>
      obtain ⟨-, rfl⟩ := hcmd
      exact .inl ⟨rfl, fun _ => rfl⟩
    | queue replica =>
      obtain ⟨-, rfl⟩ := hcmd
      exact .inl ⟨rfl, fun _ => rfl⟩
    | acquire replica ticket =>
      obtain ⟨-, rfl⟩ := hcmd
      exact .inl ⟨rfl, fun _ => rfl⟩
    | release replica =>
      obtain rfl : s' = c.shared.handOver replica := hcmd
      exact .inl ⟨rfl, fun _ => rfl⟩
    | eval k rate nowMs =>
      obtain ⟨fault, heq⟩ := hcmd
      obtain ⟨rfl, rfl⟩ := Prod.mk.inj heq
      by_cases hk : k = key
      · subst hk
        exact .inr ⟨i, rate, nowMs, _, rfl, takeOne_executed fault k rate nowMs c.shared.db⟩
      · exact .inl ⟨evalOn_of_ne rate hk, fun _ => takeOne_other fault hk rate nowMs c.shared.db⟩

/-- What holds of a bucket along a run, when `n` of its tokens were counted in the window. -/
structure ClusterWithin (d : Slot String ℚ) (since til : ℚ) (t : List (ClusterRecord ι)) (n : ℕ)
    (s : ClusterState) : Prop where
  metered : ∀ now, (∀ x ∈ stamps d.key t, x ≤ now) → now ≤ til →
    Metered d since now n (Redis.abs s.db)
  bound : (n : ℚ) ≤ d.cap + (til - since) * d.rate

section
variable {d : Slot String ℚ} {since til : ℚ} {t : List (ClusterRecord ι)} {n : ℕ}

/-- A bound for a count is one for a smaller count. -/
theorem ClusterWithin.anti {s : ClusterState} (h : ClusterWithin d since til t n s) {fewer : ℕ}
    (hle : fewer ≤ n) : ClusterWithin d since til t fewer s :=
  ⟨fun now hnow htil => (h.metered now hnow htil).anti hle, le_trans (Nat.cast_le.mpr hle) h.bound⟩

/-- One step, and one more token if the step says that it took one in the window. The bucket does
not expire, and the scripts on the key come in order of their times, and all of them with the rate
of the bucket. -/
theorem ClusterWithin.step [DecidableEq ι] {key : String} {rate : BucketRate}
    (h : ClusterWithin (slotOf key rate) since til t n c.shared)
    (hrate : 0 ≤ (slotOf key rate).rate) (hle : since ≤ til)
    (hstep : Step (clusterSemantics reads) c rec c')
    (hcmd : ∀ i r nowMs reply, rec.actor = some (i, evaluated key r nowMs reply) → r = rate)
    (hkept : Unexpired key rec) (hord : (stamps key (t ++ [rec])).Pairwise (· ≤ ·)) :
    ClusterWithin (slotOf key rate) since til (t ++ [rec]) n c'.shared ∧
      (AnsweredIn key since til (some true) rec →
        ClusterWithin (slotOf key rate) since til (t ++ [rec]) (n + 1) c'.shared) := by
  rcases table_cases hstep key with ⟨hnone, hother⟩ | ⟨i, r, x, reply, hact, hexec⟩
  · -- Nothing happens to the key: it is not written, and does not expire.
    have hstamps := stamps_snoc_none hnone t
    refine ⟨⟨fun now hnow htil => ?_, h.bound⟩, ?_⟩
    · have hmetered := h.metered now (fun x hx => hnow x (hstamps.symm ▸ hx)) htil
      refine hmetered.congr ?_
      show Redis.abs c'.shared.db key = Redis.abs c.shared.db key
      rw [Redis.abs, Redis.abs, hother hkept]
    · rintro ⟨x, hx, -⟩
      rw [hnone] at hx
      cases hx
  · obtain rfl := hcmd i r x reply hact
    have hstamp : stampOf key rec = some (x, reply) := by
      simp [stampOf, hact]
    have hstamps := stamps_snoc_some hstamp t
    -- The script comes after every other one on the key, so it finds the bucket metered.
    have hlast : x ∈ stamps key (t ++ [rec]) := by simp [hstamps]
    rw [hstamps] at hord
    have hbefore : ∀ y ∈ stamps key t, y ≤ x := fun y hy =>
      (List.pairwise_append.mp hord).2.2 y hy x (List.mem_singleton_self x)
    refine ⟨⟨fun now hnow htil => ?_, h.bound⟩, ?_⟩
    · have hx : x ≤ now := hnow x hlast
      exact (hexec.self (h.metered x hbefore (le_trans hx htil))).later hrate hx
    · -- It grants a token in the window, which is counted.
      rintro ⟨y, hy, hsince, htil⟩
      obtain ⟨rfl, rfl⟩ := Prod.mk.inj (Option.some.inj (hstamp.symm.trans hy))
      have htoken := hexec.token hrate hsince (h.metered x hbefore htil)
      refine ⟨fun now hnow _ => ?_, htoken.given_le hrate htil hle⟩
      exact htoken.later hrate (hnow x hlast)

end

end

/-! ### The cluster -/

section
variable {ι : Type} [DecidableEq ι] {reads : ℚ → ℚ → Prop} {call : ι → CheckCall}
  {l : RedisLimiter} {tenant : String} {since til start : ℚ} {t : List (ClusterRecord ι)}
  {c : Config LimiterSig ClusterState ι Verdict}

/-- The replicas have the limiter `l`, up to what they do when Redis fails. -/
def Replicas (l : RedisLimiter) (call : ι → CheckCall) : Prop :=
  ∀ i, (call i).limiter = { l with failMode := (call i).limiter.failMode }

/-- The bucket of the tenant. -/
def tenantBucket (l : RedisLimiter) (tenant : String) : Slot String ℚ :=
  slotOf (l.tenantKey tenant) (l.limits.limitsFor tenant).tenant

omit [DecidableEq ι] in
/-- The replicas have one key for each tenant. -/
theorem Replicas.tenantKey (h : Replicas l call) (i : ι) (tenant : String) :
    (call i).limiter.tenantKey tenant = l.tenantKey tenant := by
  rw [h i]
  rfl

omit [DecidableEq ι] in
/-- The replicas have the same limits. -/
theorem Replicas.limits (h : Replicas l call) (i : ι) : (call i).limiter.limits = l.limits := by
  rw [h i]

/-- Every script on the tenant's key has the tenant's rate. -/
theorem rate_of_run (hsame : Replicas l call)
    (hrun : Run (clusterSemantics reads) (cluster call (.fresh start)) t c)
    {rec : ClusterRecord ι} {t' : List (ClusterRecord ι)} (ht : t = t' ++ [rec]) {i : ι}
    {rate : BucketRate} {nowMs : ℚ} {reply : Option Bool}
    (hact : rec.actor = some (i, evaluated (l.tenantKey tenant) rate nowMs reply)) :
    rate = (l.limits.limitsFor tenant).tenant := by
  subst ht
  have hcmd : CallCmd (call i).limiter (call i).tenant (call i).user
      (.eval (l.tenantKey tenant) rate nowMs) :=
    hrun.issued (A := fun _ => True) hact (checkSteps_obeys _ _ _ _) fun _ _ => trivial
  rcases hcmd with ⟨hkey, hrate⟩ | ⟨hkey, -⟩
  · rw [hsame.tenantKey] at hkey
    rw [hrate, hsame.limits, Redis.tenantKey_inj l hkey]
  · rw [← hsame.tenantKey i] at hkey
    exact absurd hkey (Redis.tenantKey_ne_userKey _ _ _ _)

/-- The tokens of the tenant's bucket, along a run. -/
theorem clusterWithin_run (hsame : Replicas l call)
    (hon : (l.limits.limitsFor tenant).tenant.isEnabled = true) (hle : since ≤ til)
    (hrun : Run (clusterSemantics reads) (cluster call (.fresh start)) t c)
    (hkept : ∀ rec ∈ t, Unexpired (l.tenantKey tenant) rec)
    (hord : (stamps (l.tenantKey tenant) t).Pairwise (· ≤ ·)) :
    ClusterWithin (tenantBucket l tenant) since til t
      (actors (AnsweredIn (l.tenantKey tenant) since til (some true)) t).ncard c.shared := by
  have hrate : 0 ≤ (tenantBucket l tenant).rate :=
    div_nonneg (of_decide_eq_true (Bool.and_eq_true_iff.mp hon).1).le (by norm_num)
  have hcap : 0 ≤ (tenantBucket l tenant).cap := Nat.cast_nonneg _
  -- A step adds a token to the count only if its script grants one.
  refine hrun.tally (W := fun t₁ n s => ClusterWithin (tenantBucket l tenant) since til t₁ n s)
    ⟨fun now _ _ => metered_empty hcap since now, ?_⟩ (fun _ _ _ _ hle' h => h.anti hle') ?_
  · rw [Nat.cast_zero]
    exact add_nonneg hcap (mul_nonneg (sub_nonneg.mpr hle) hrate)
  · intro t₁ rec c₁ c₂ n hrun₁ hstep hpre h
    have hord₁ : (stamps (l.tenantKey tenant) (t₁ ++ [rec])).Pairwise (· ≤ ·) :=
      hord.sublist ((hpre.sublist.filterMap _).map _)
    exact h.step hrate hle hstep
      (fun i r nowMs reply hact => rate_of_run hsame (hrun₁.snoc hstep) rfl hact)
      (hkept rec (hpre.subset (List.mem_append_right t₁ (List.mem_singleton_self rec)))) hord₁

/-- The calls of the tenant that were admitted, by when they asked the tenant's bucket. -/
def admittedCalls (l : RedisLimiter) (call : ι → CheckCall) (tenant : String) (since til : ℚ)
    (t : List (ClusterRecord ι)) (c : Config LimiterSig ClusterState ι Verdict) : Set ι :=
  { i | (call i).tenant = tenant ∧ c.thread i = .ret .admitted ∧
    ∃ reply, i ∈ actors (AnsweredIn (l.tenantKey tenant) since til reply) t }

/-- The calls of replicas that fail open whose script on the tenant's bucket failed. -/
def openErrors (l : RedisLimiter) (call : ι → CheckCall) (tenant : String) (since til : ℚ)
    (t : List (ClusterRecord ι)) : Set ι :=
  { i | (call i).limiter.failMode = .openMode ∧
    i ∈ actors (AnsweredIn (l.tenantKey tenant) since til none) t }

/-- A call that was admitted has got a token, or an error that its replica lets pass. -/
theorem admittedCalls_subset (hsame : Replicas l call)
    (hon : (l.limits.limitsFor tenant).tenant.isEnabled = true)
    (hrun : Run (clusterSemantics reads) (cluster call (.fresh start)) t c) :
    admittedCalls l call tenant since til t c ⊆
      actors (AnsweredIn (l.tenantKey tenant) since til (some true)) t ∪
        openErrors l call tenant since til t := by
  rintro i ⟨rfl, hret, reply, rec, hrec, hanswered, e, hact⟩
  have hreturned := hrun.returned (A := fun _ => True) hret (checkSteps_obeys _ _ _ _)
    (fun _ _ => trivial) rfl (by rw [hsame.limits]; exact hon)
  obtain ⟨nowMs, reply', hevents, hpassed⟩ := hreturned
  rw [hsame.tenantKey] at hevents
  -- The answer in the window is the only one that the call has got from the tenant's bucket.
  obtain ⟨x, hstamp, hwindow⟩ := hanswered
  have hmem : (x, reply) ∈ (eventsOf i t).filterMap (evalOn (l.tenantKey (call i).tenant)) := by
    rw [List.mem_filterMap]
    refine ⟨e, mem_eventsOf.mpr ⟨rec, hrec, hact⟩, ?_⟩
    rw [stampOf, hact] at hstamp
    exact hstamp
  rw [hevents] at hmem
  obtain ⟨rfl, rfl⟩ := Prod.mk.inj (List.mem_singleton.mp hmem)
  rcases hpassed with rfl | ⟨rfl, hopen⟩
  · exact .inl ⟨rec, hrec, ⟨x, hstamp, hwindow⟩, e, hact⟩
  · exact .inr ⟨hopen, rec, hrec, ⟨x, hstamp, hwindow⟩, e, hact⟩

/-- **The quota of a tenant holds over all replicas**, in every interleaving of their calls and with
any faults of Redis, if the tenant's bucket does not expire and the scripts on its key are executed
in the order of the times that are sent with them: of the calls that asked the tenant's bucket in a
window of time, at most the burst plus the rate times its length are admitted, and one for each
error that a replica lets pass. -/
theorem clusterQuota (hsame : Replicas l call)
    (hon : (l.limits.limitsFor tenant).tenant.isEnabled = true)
    (hrun : Run (clusterSemantics reads) (cluster call (.fresh start)) t c)
    (hkept : ∀ rec ∈ t, Unexpired (l.tenantKey tenant) rec)
    (hord : (stamps (l.tenantKey tenant) t).Pairwise (· ≤ ·)) (hle : since ≤ til) :
    ((admittedCalls l call tenant since til t c).ncard : ℚ) ≤
      (l.limits.limitsFor tenant).tenant.burst +
        (l.limits.limitsFor tenant).tenant.rpcsPerSecond * ((til - since) / 1000) +
        (openErrors l call tenant since til t).ncard := by
  have hgranted := (clusterWithin_run hsame hon hle hrun hkept hord).bound
  have hbound : (tenantBucket l tenant).cap + (til - since) * (tenantBucket l tenant).rate =
      (l.limits.limitsFor tenant).tenant.burst +
        (l.limits.limitsFor tenant).tenant.rpcsPerSecond * ((til - since) / 1000) := by
    simp only [tenantBucket, slotOf]
    ring
  -- An admitted call got a token, or passed on an error.
  have hfinite : (actors (AnsweredIn (l.tenantKey tenant) since til (some true)) t ∪
      openErrors l call tenant since til t).Finite :=
    (finite_actors _ t).union ((finite_actors _ t).subset fun i hi => hi.2)
  have hcard := (Set.ncard_le_ncard (admittedCalls_subset hsame hon hrun) hfinite).trans
    (Set.ncard_union_le _ _)
  have hcast := (Nat.cast_le (α := ℚ)).mpr hcard
  rw [Nat.cast_add] at hcast
  linarith

end

namespace OneReplica

/-- One call per second for each tenant, without a reserve, and none if Redis fails. -/
def limiter : RedisLimiter :=
  ⟨"scg-rl", .closedMode, ⟨fun _ => none, ⟨⟨1, 1⟩, .disabled⟩⟩⟩

/-- All calls come to one replica. -/
def call (_ : ℕ) : CheckCall := ⟨limiter, 0, "team-a", "alice"⟩

/-- Two calls: both read the time and stand in line, and then get the connection in turn. -/
def turns : List ℕ := [0, 1, 0, 1, 0, 0, 0, 1, 1, 1]

def records : List (ClusterRecord ℕ) :=
  (schedule (fun _ => clusterHandler) turns (cluster call (.fresh 0))).1

/-- The schedule is a run of the cluster. -/
theorem run : ∃ c, Run (clusterSemantics accurate) (cluster call (.fresh 0)) records c := by
  refine ⟨_, schedule_run_of_permitted turns _ ?_⟩
  exact ⟨⟨rfl, rfl⟩, ⟨rfl, rfl⟩, ⟨rfl, rfl⟩, ⟨rfl, rfl⟩, ⟨rfl, rfl⟩, ⟨.none, rfl⟩, rfl, ⟨rfl, rfl⟩,
    ⟨.none, rfl⟩, rfl, trivial⟩

end OneReplica

/-- One of two calls at the same time is admitted. -/
theorem clusterQuota_oneReplica : ∃ c,
    Run (clusterSemantics accurate) (cluster OneReplica.call (.fresh 0)) OneReplica.records c ∧
    ((admittedCalls OneReplica.limiter OneReplica.call "team-a" 0 0 OneReplica.records c).ncard : ℚ)
      ≤ 1 + 1 * ((0 - 0) / 1000) +
        (openErrors OneReplica.limiter OneReplica.call "team-a" 0 0 OneReplica.records).ncard := by
  obtain ⟨c, hrun⟩ := OneReplica.run
  have hkept : ∀ rec ∈ OneReplica.records,
      Unexpired (OneReplica.limiter.tenantKey "team-a") rec := by
    -- No step of this run takes the bucket away.
    have hall : (OneReplica.records.all fun rec =>
        (rec.pre.db (OneReplica.limiter.tenantKey "team-a")).isNone ||
          (rec.post.db (OneReplica.limiter.tenantKey "team-a")).isSome) = true := by
      decide +kernel
    intro rec hrec hpre
    have hone := List.all_eq_true.mp hall rec hrec
    rw [Bool.or_eq_true, Option.isNone_iff_eq_none] at hone
    exact Option.isSome_iff_ne_none.mp (hone.resolve_left hpre)
  have hord : (stamps (OneReplica.limiter.tenantKey "team-a") OneReplica.records).Pairwise
      (· ≤ ·) := by
    decide +kernel
  have hon : (OneReplica.limiter.limits.limitsFor "team-a").tenant.isEnabled = true := by
    decide +kernel
  have hsame : Replicas OneReplica.limiter OneReplica.call := fun _ => rfl
  have hquota := clusterQuota hsame hon hrun hkept hord (le_refl (0 : ℚ))
  exact ⟨c, hrun, by simpa [LimiterConfig.limitsFor, OneReplica.limiter] using hquota⟩

end SparkGateway.Proofs.RateLimit
