import SparkGateway.Proofs.RateLimit.RedisTable
import SparkGateway.Spec.LimiterExpiry

/-!
# `SparkGateway.Proofs.RateLimit.KeyExpiry`: does the end of a key grant tokens?

A bucket key that was idle for `key_ttl` seconds is gone, and the next execution finds a full
bucket. That is harmless if the bucket would be full by then anyway. `GrantsNothing` compares
a run with expiring keys to the same run without expiry.

`grantsNothing_iff` is the exact condition, for one rate and one lifetime and all runs in order
of time: the refill of one lifetime is at least the burst. If it is, both runs store the same
buckets (`runExpiring_eq`). If it is not, a caller who empties the bucket and waits for one
lifetime (`emptyAndReturn`) gets the burst again, and that is more than the refill.
-/

set_option autoImplicit false

namespace SparkGateway.Proofs.RateLimit

open SparkGateway.Lib.TokenBucket
open SparkGateway.Spec

/-- A sequence of executions on one key with a lifetime: what each returned. -/
def runExpiring (rate capacity : ℚ) (ttl : ℤ) : List ℚ → Option ExpiringBucket → List Bool
  | [], _ => []
  | now :: times, data =>
      let r := expiringScript rate capacity now ttl data
      r.1 :: runExpiring rate capacity ttl times (some r.2)

/-- Every execution on a fresh key that is admitted with the lifetime is admitted without. -/
def GrantsNothing (rate : BucketRate) (ttl : ℤ) (times : List ℚ) : Prop :=
  ∀ i : ℕ, (runExpiring rate.rpcsPerSecond rate.burst ttl times none)[i]? = some true →
    (runScript rate.rpcsPerSecond rate.burst times none).1[i]? = some true

/-! ### A lifetime that refills the bucket -/

/-- The key that a run without expiry holds, with its lifetime. -/
def stamp (ttl : ℤ) (b : RedisBucket) : ExpiringBucket := ⟨b, b.ts + 1000 * ttl⟩

section
variable {rate : BucketRate} {ttl : ℤ}

/-- A bucket that was idle for one lifetime is full. -/
theorem redisBalance_idle (hburst : (rate.burst : ℚ) ≤ rate.rpcsPerSecond * ttl)
    (hrate : 0 ≤ rate.rpcsPerSecond) {b : RedisBucket} (hb : 0 ≤ b.tokens) {now : ℚ}
    (hidle : b.ts + 1000 * ttl ≤ now) : redisBalance rate now (some b) = rate.burst := by
  have helapsed : (ttl : ℚ) ≤ max 0 ((now - b.ts) / 1000) := by
    refine le_max_of_le_right ?_
    rw [le_div_iff₀ (by norm_num)]
    linarith
  have hrefill : (ttl : ℚ) * rate.rpcsPerSecond
      ≤ max 0 ((now - b.ts) / 1000) * rate.rpcsPerSecond :=
    mul_le_mul_of_nonneg_right helapsed hrate
  refine min_eq_left ?_
  linarith [mul_comm rate.rpcsPerSecond (ttl : ℚ)]

/-- So whether the key is gone cannot be seen. -/
theorem redisBalance_stamp (hburst : (rate.burst : ℚ) ≤ rate.rpcsPerSecond * ttl)
    (hrate : 0 ≤ rate.rpcsPerSecond) {data : Option RedisBucket}
    (hdata : ∀ b, data = some b → 0 ≤ b.tokens) (now : ℚ) :
    redisBalance rate now (bucketAt now (data.map (stamp ttl))) = redisBalance rate now data := by
  cases data with
  | none => rfl
  | some b =>
    by_cases hlive : now < b.ts + 1000 * ttl
    · simp [bucketAt, stamp, hlive]
    · simp only [bucketAt, stamp, Option.map_some, hlive, if_false]
      exact (redisBalance_idle hburst hrate (hdata b rfl) (not_lt.mp hlive)).symm

/-- A balance is not negative if the stored tokens are not. -/
theorem redisBalance_nonneg (hrate : 0 ≤ rate.rpcsPerSecond) {data : Option RedisBucket}
    (hdata : ∀ b, data = some b → 0 ≤ b.tokens) (now : ℚ) : 0 ≤ redisBalance rate now data := by
  cases data with
  | none => exact Nat.cast_nonneg _
  | some b =>
    have hrefill : 0 ≤ max 0 ((now - b.ts) / 1000) * rate.rpcsPerSecond :=
      mul_nonneg (le_max_left _ _) hrate
    exact le_min (Nat.cast_nonneg _) (add_nonneg (hdata b rfl) hrefill)

/-- Both runs answer alike and store the same buckets. -/
theorem runExpiring_eq (hburst : (rate.burst : ℚ) ≤ rate.rpcsPerSecond * ttl)
    (hrate : 0 ≤ rate.rpcsPerSecond) (times : List ℚ) {data : Option RedisBucket}
    (hdata : ∀ b, data = some b → 0 ≤ b.tokens) :
    runExpiring rate.rpcsPerSecond rate.burst ttl times (data.map (stamp ttl))
      = (runScript rate.rpcsPerSecond rate.burst times data).1 := by
  induction times generalizing data with
  | nil => rfl
  | cons now times ih =>
    -- One execution: the same balance, so the same answer and the same bucket.
    have hscript : tokenBucketScript rate.rpcsPerSecond rate.burst now
          (bucketAt now (data.map (stamp ttl)))
        = tokenBucketScript rate.rpcsPerSecond rate.burst now data := by
      rw [Redis.tokenBucketScript_eq, Redis.tokenBucketScript_eq,
        redisBalance_stamp hburst hrate hdata]
    have hts : (tokenBucketScript rate.rpcsPerSecond rate.burst now data).2.ts = now := by
      rw [Redis.tokenBucketScript_eq]
    have htokens : 0 ≤ (tokenBucketScript rate.rpcsPerSecond rate.burst now data).2.tokens := by
      rw [Redis.tokenBucketScript_eq]
      exact take_snd_nonneg (redisBalance_nonneg hrate hdata now)
    have hrest := @ih (some (tokenBucketScript rate.rpcsPerSecond rate.burst now data).2)
      (fun b hb => Option.some.inj hb ▸ htokens)
    rw [Option.map_some, stamp, hts] at hrest
    simp only [runExpiring, expiringScript, runScript, hscript, hrest]

end

/-! ### A lifetime that does not -/

/-- Take the whole burst at time 0, and again after one lifetime. -/
def emptyAndReturn (burst : ℕ) (ttl : ℤ) : List ℚ :=
  List.replicate burst 0 ++ List.replicate burst (1000 * max 0 (ttl : ℚ))

section
variable {rate : BucketRate} {ttl : ℤ}

/-- Executions at one time are all admitted as far as the balance reaches. The key then ends
one lifetime after that time, if there was an execution. -/
theorem runExpiring_replicate (ttl : ℤ) (now : ℚ) {n : ℕ} (hn : n ≤ rate.burst)
    {data : Option ExpiringBucket} (hdata : (n : ℚ) ≤ redisBalance rate now (bucketAt now data)) :
    ∃ data' : Option ExpiringBucket,
      (data' = data ∨ ∃ d, data' = some d ∧ d.expiresAt = now + 1000 * ttl) ∧
      ∀ rest, runExpiring rate.rpcsPerSecond rate.burst ttl (List.replicate n now ++ rest) data
        = List.replicate n true ++ runExpiring rate.rpcsPerSecond rate.burst ttl rest data' := by
  induction n generalizing data with
  | zero => exact ⟨data, .inl rfl, fun rest => rfl⟩
  | succ n ih =>
    push_cast at hdata
    have hone : (1 : ℚ) ≤ redisBalance rate now (bucketAt now data) := by
      linarith [Nat.cast_nonneg (α := ℚ) n]
    have hscript : expiringScript rate.rpcsPerSecond rate.burst now ttl data
        = (true, ⟨⟨redisBalance rate now (bucketAt now data) - 1, now⟩, now + 1000 * ttl⟩) := by
      rw [expiringScript, Redis.tokenBucketScript_eq, take_of_le hone]
    generalize redisBalance rate now (bucketAt now data) = level at hdata hone hscript
    -- Gone or not, what the next execution finds is enough for the rest.
    have hnext : (n : ℚ) ≤ redisBalance rate now (bucketAt now
        (some ⟨⟨level - 1, now⟩, now + 1000 * ttl⟩)) := by
      have hburst : (n : ℚ) ≤ rate.burst := Nat.cast_le.mpr (Nat.le_of_succ_le hn)
      by_cases hlive : now < now + 1000 * ttl
      · simp only [bucketAt, hlive, if_true, redisBalance, sub_self, zero_div, max_self, zero_mul,
          add_zero]
        exact le_min hburst (by linarith)
      · simpa only [bucketAt, hlive, if_false, redisBalance] using hburst
    obtain ⟨data', hdata', hrun⟩ := ih (Nat.le_of_succ_le hn) hnext
    refine ⟨data', ?_, fun rest => ?_⟩
    · rcases hdata' with rfl | hd
      · exact .inr ⟨_, rfl, rfl⟩
      · exact .inr hd
    · simp only [List.replicate_succ, List.cons_append, runExpiring, hscript, hrun]

/-- With expiry, the whole burst is admitted twice. -/
theorem runExpiring_emptyAndReturn :
    runExpiring rate.rpcsPerSecond rate.burst ttl (emptyAndReturn rate.burst ttl) none
      = List.replicate (rate.burst + rate.burst) true := by
  have hfull : ∀ now, (rate.burst : ℚ) ≤ redisBalance rate now none := fun now => le_refl _
  obtain ⟨data, hdata, hfirst⟩ :=
    @runExpiring_replicate rate ttl 0 rate.burst (le_refl _) none (hfull 0)
  have hgone : bucketAt (1000 * max 0 (ttl : ℚ)) data = none := by
    rcases hdata with rfl | ⟨d, rfl, hd⟩
    · rfl
    · simp [bucketAt, hd]
  obtain ⟨data', -, hsecond⟩ := @runExpiring_replicate rate ttl (1000 * max 0 (ttl : ℚ))
    rate.burst (le_refl _) data (hgone.symm ▸ hfull _)
  have hlast := hsecond []
  rw [List.append_nil, runExpiring, List.append_nil] at hlast
  rw [emptyAndReturn, hfirst, hlast, List.replicate_append_replicate]

/-- The times of this run are in order. -/
theorem emptyAndReturn_pairwise (burst : ℕ) (ttl : ℤ) :
    (emptyAndReturn burst ttl).Pairwise (· ≤ ·) := by
  refine List.pairwise_append.mpr ⟨?_, ?_, ?_⟩
  · exact List.pairwise_replicate.mpr (.inr (le_refl _))
  · exact List.pairwise_replicate.mpr (.inr (le_refl _))
  · intro a ha b hb
    rw [List.eq_of_mem_replicate ha, List.eq_of_mem_replicate hb]
    exact mul_nonneg (by norm_num) (le_max_left _ _)

/-- Without expiry, the second part gets no more than the refill of the lifetime. -/
theorem admissions_emptyAndReturn (hrate : 0 ≤ rate.rpcsPerSecond) (hpos : 0 < rate.burst) :
    (admissions (runScript rate.rpcsPerSecond rate.burst
        (emptyAndReturn rate.burst ttl) none).1 : ℚ)
      ≤ rate.burst + rate.rpcsPerSecond * max 0 (ttl : ℚ) := by
  have hchain := (emptyAndReturn_pairwise rate.burst ttl).isChain
  obtain ⟨n, hn⟩ := Nat.exists_eq_succ_of_ne_zero hpos.ne'
  have hcons : emptyAndReturn rate.burst ttl
      = 0 :: (List.replicate n 0 ++ List.replicate (n + 1) (1000 * max 0 (ttl : ℚ))) := by
    rw [hn]
    rfl
  have hlast : (emptyAndReturn rate.burst ttl).getLastD 0 = 1000 * max 0 (ttl : ℚ) := by
    rw [hcons, List.getLastD_cons, List.replicate_succ', ← List.append_assoc, List.getLastD_concat]
  rw [hcons] at hlast hchain ⊢
  rw [runScript_none]
  have hwin := admissions_le_window (b := ⟨rate.burst, 0⟩) hrate (Nat.cast_nonneg rate.burst)
    (Nat.cast_nonneg rate.burst) (le_refl _) (List.isChain_cons_cons.mpr ⟨le_refl _, hchain⟩)
    (le_of_eq (by rw [hlast, sub_zero]))
  linarith

end

/-- A list with `n` times `true` in front has at least `n` admissions. -/
theorem le_admissions {n : ℕ} {answers : List Bool} (h : ∀ i < n, answers[i]? = some true) :
    n ≤ admissions answers := by
  have htake : answers.take n = List.replicate n true := by
    refine List.ext_getElem? fun i => ?_
    rw [List.getElem?_take, List.getElem?_replicate]
    split
    · rename_i hi
      exact h i hi
    · rfl
  have hcount : (answers.take n).count true ≤ answers.count true :=
    (List.take_sublist n answers).count_le true
  rwa [htake, List.count_replicate_self] at hcount

/-- **When the end of a key grants nothing.** For an enabled bucket, every run in order of time
admits with the lifetime only what it admits without, exactly if the refill of one lifetime is at
least the burst. -/
theorem grantsNothing_iff (rate : BucketRate) (keyTtlSecs : UInt64)
    (hon : rate.isEnabled = true) :
    (∀ times : List ℚ, times.Pairwise (· ≤ ·) →
      GrantsNothing rate (ttlArg keyTtlSecs) times) ↔
    (rate.burst : ℚ) ≤ rate.rpcsPerSecond * ttlArg keyTtlSecs := by
  obtain ⟨hr, hb⟩ := Bool.and_eq_true_iff.mp hon
  have hrate : 0 ≤ rate.rpcsPerSecond := (of_decide_eq_true hr).le
  have hpos : 0 < rate.burst := of_decide_eq_true hb
  constructor
  · intro hall
    have hgrants := hall _ (emptyAndReturn_pairwise rate.burst (ttlArg keyTtlSecs))
    have htwice : rate.burst + rate.burst ≤ admissions (runScript rate.rpcsPerSecond rate.burst
        (emptyAndReturn rate.burst (ttlArg keyTtlSecs)) none).1 := by
      refine le_admissions fun i hi => hgrants i ?_
      rw [runExpiring_emptyAndReturn, List.getElem?_replicate, if_pos hi]
    have htwice' : (rate.burst : ℚ) + rate.burst ≤ admissions (runScript rate.rpcsPerSecond
        rate.burst (emptyAndReturn rate.burst (ttlArg keyTtlSecs)) none).1 := by
      exact_mod_cast htwice
    have hbound := @admissions_emptyAndReturn rate (ttlArg keyTtlSecs) hrate hpos
    have hle : (rate.burst : ℚ) ≤ rate.rpcsPerSecond * max 0 (ttlArg keyTtlSecs : ℚ) := by
      linarith
    -- The burst is positive, so the lifetime is.
    rcases le_total (ttlArg keyTtlSecs : ℚ) 0 with hneg | hnonneg
    · rw [max_eq_left hneg, mul_zero] at hle
      exact absurd hle (not_le.mpr (Nat.cast_pos.mpr hpos))
    · rwa [max_eq_right hnonneg] at hle
  · intro hburst times _ i hi
    have heq := @runExpiring_eq rate _ hburst hrate times none (by simp)
    rw [Option.map_none] at heq
    rwa [heq] at hi

/-- With the default lifetime, one token per second and a burst of 200. -/
theorem grantsNothing_default_ttl :
    (⟨1, 200⟩ : BucketRate).isEnabled = true ∧ ∀ times : List ℚ, times.Pairwise (· ≤ ·) →
      GrantsNothing ⟨1, 200⟩ (ttlArg defaultRateLimitRedisKeyTtlSecs) times := by
  have hon : (⟨1, 200⟩ : BucketRate).isEnabled = true := by decide +kernel
  refine ⟨hon, (grantsNothing_iff _ _ hon).mpr ?_⟩
  decide +kernel

/-- With the default lifetime, one token in 8192 seconds and a burst of one: the second
execution, one hour after the first, is admitted because the key is gone. Without expiry less
than half a token is there. -/
theorem expiry_grants_token :
    ¬ GrantsNothing ⟨1 / 8192, 1⟩ (ttlArg defaultRateLimitRedisKeyTtlSecs) [0, 3600000] := by
  intro h
  have hsecond := h 1 (by decide +kernel)
  revert hsecond
  decide +kernel

end SparkGateway.Proofs.RateLimit
