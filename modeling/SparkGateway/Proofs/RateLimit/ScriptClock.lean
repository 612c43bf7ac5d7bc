import Mathlib.Data.List.Chain
import SparkGateway.Lib.TokenBucket
import SparkGateway.Spec.RateLimit

/-!
# `SparkGateway.Proofs.RateLimit.ScriptClock`: the shared bucket and its clocks

`TOKEN_BUCKET_SCRIPT` runs atomically, but the time it works with is an argument: every
replica sends its own wall clock. `runScript` is a sequence of executions on one key, each
with the time it was sent, in the order in which Redis executes them.

The script is a token bucket (`Lib/TokenBucket.lean`) whose elapsed times are the forward
moves of the argument: `runScript_eq_drain`. A backward move refills nothing, but it does
set the stored time back, so the next forward move refills a stretch of time again. Over
any clocks, a block of executions therefore admits at most the capacity plus the rate times
the sum of the forward moves (`admissions_le_forward`).

The quota the limiter is for has the length of the block's time window in place of that
sum (`QuotaHolds`). The two agree when no execution is sent a time before the one the key
holds, and `quotaHolds_of_clockForward` proves the quota for every such sequence.
`not_quotaHolds_clock_back` is a sequence of four executions, with one step back, that
admits one more than its quota.
-/

set_option autoImplicit false

namespace SparkGateway.Proofs.RateLimit

open SparkGateway.Lib.TokenBucket
open SparkGateway.Spec

/-- A sequence of script executions on one key: what each returned, and what the key holds
afterwards. -/
def runScript (rate capacity : ℚ) : List ℚ → Option RedisBucket →
    List Bool × Option RedisBucket
  | [], data => ([], data)
  | now :: times, data =>
      let r := tokenBucketScript rate capacity now data
      let rest := runScript rate capacity times (some r.2)
      (r.1 :: rest.1, rest.2)

/-- The largest minus the smallest of some times, `0` if there are none. -/
def spread (times : List ℚ) : ℚ := times.max?.getD 0 - times.min?.getD 0

/-- The cluster-wide quota: in every contiguous block of the executions `times` on a fresh
key, at most `capacity` plus `rate` times the time window of the block are admitted. The
window spans the block and the execution just before it. Times are in milliseconds. -/
def QuotaHolds (rate capacity : ℚ) (times : List ℚ) : Prop :=
  ∀ pre block post, times = pre ++ block ++ post →
    (admissions (runScript rate capacity block (runScript rate capacity pre none).2).1 : ℚ)
      ≤ capacity + rate * spread (pre.getLast?.toList ++ block) / 1000

/-- No execution is sent a time before the time that the key holds. -/
def ClockForward (rate capacity : ℚ) (times : List ℚ) : Prop :=
  ∀ pre now post b, times = pre ++ now :: post →
    (runScript rate capacity pre none).2 = some b → b.ts ≤ now

/-- The elapsed time the script credits at each execution, in seconds: the forward moves of
its time argument, from the stored time `ts` on. -/
def forwardMoves : ℚ → List ℚ → List ℚ
  | _, [] => []
  | ts, now :: times => max 0 ((now - ts) / 1000) :: forwardMoves now times

/-! ### The script as a token bucket -/

/-- A fresh key behaves as a full bucket that was refilled just now. -/
theorem tokenBucketScript_none (rate capacity now : ℚ) :
    tokenBucketScript rate capacity now none
      = tokenBucketScript rate capacity now (some ⟨capacity, now⟩) := rfl

/-- One execution is a refill for the forward move, and a take. It stores the time it was
sent. -/
theorem tokenBucketScript_some (rate capacity now : ℚ) (b : RedisBucket) :
    tokenBucketScript rate capacity now (some b)
      = ((take (refill capacity rate (max 0 ((now - b.ts) / 1000)) b.tokens)).1,
          ⟨(take (refill capacity rate (max 0 ((now - b.ts) / 1000)) b.tokens)).2, now⟩) := by
  unfold tokenBucketScript take refill
  simp only [ge_iff_le]
  split <;> rfl

/-- A run of executions is a run of the token bucket over the forward moves. The key holds then
what the token bucket is left with, and the time of the last execution. -/
theorem runScript_eq_drain (rate capacity : ℚ) (times : List ℚ) (b : RedisBucket) :
    runScript rate capacity times (some b)
      = ((drain capacity rate (forwardMoves b.ts times) b.tokens).1,
          some ⟨(drain capacity rate (forwardMoves b.ts times) b.tokens).2,
            times.getLastD b.ts⟩) := by
  induction times generalizing b with
  | nil => rfl
  | cons now times ih =>
    simp only [runScript, forwardMoves, drain, tokenBucketScript_some]
    rw [ih, List.getLastD_cons]

/-- A run on a fresh key is a run on a full bucket that was refilled at the first time. -/
theorem runScript_none (rate capacity now : ℚ) (times : List ℚ) :
    runScript rate capacity (now :: times) none
      = runScript rate capacity (now :: times) (some ⟨capacity, now⟩) := rfl

/-- Forward moves are not negative. -/
theorem forwardMoves_nonneg (times : List ℚ) (ts : ℚ) : ∀ e ∈ forwardMoves ts times, 0 ≤ e := by
  induction times generalizing ts with
  | nil => simp [forwardMoves]
  | cons now times ih =>
    intro e he
    rcases List.mem_cons.mp he with rfl | he
    · exact le_max_left _ _
    · exact ih now e he

/-- Over any clocks, a run admits at most the tokens it found plus the rate times the sum of
the forward moves. -/
theorem admissions_le_forward {rate capacity : ℚ} (hrate : 0 ≤ rate) (hcap : 0 ≤ capacity)
    (times : List ℚ) {b : RedisBucket} (hb : 0 ≤ b.tokens) :
    (admissions (runScript rate capacity times (some b)).1 : ℚ)
      ≤ b.tokens + rate * (forwardMoves b.ts times).sum := by
  have hbal := drain_balance capacity rate (forwardMoves b.ts times) b.tokens
  have hleft := drain_nonneg hcap hrate (forwardMoves_nonneg times b.ts) hb
  rw [runScript_eq_drain]
  linarith [mul_comm rate (forwardMoves b.ts times).sum]

/-! ### Clocks that only move forward -/

/-- Along a chain of times, the forward moves add up to the time from the first to the
last. -/
theorem forwardMoves_sum {times : List ℚ} {ts : ℚ} (h : (ts :: times).IsChain (· ≤ ·)) :
    (forwardMoves ts times).sum = (times.getLastD ts - ts) / 1000 := by
  induction times generalizing ts with
  | nil => simp [forwardMoves]
  | cons now times ih =>
    obtain ⟨hle, hrest⟩ := List.isChain_cons_cons.mp h
    have hpos : 0 ≤ (now - ts) / 1000 := div_nonneg (sub_nonneg.mpr hle) (by norm_num)
    simp only [forwardMoves, List.sum_cons, max_eq_right hpos, ih hrest, List.getLastD_cons]
    ring

/-- Two of some times are at most their spread apart. -/
theorem sub_le_spread {times : List ℚ} {a b : ℚ} (ha : a ∈ times) (hb : b ∈ times) :
    b - a ≤ spread times := by
  have hne : times ≠ [] := List.ne_nil_of_mem ha
  obtain ⟨hi, hhi⟩ := Option.ne_none_iff_exists'.mp (mt List.max?_eq_none_iff.mp hne)
  obtain ⟨lo, hlo⟩ := Option.ne_none_iff_exists'.mp (mt List.min?_eq_none_iff.mp hne)
  have hb' : b ≤ hi := (List.max?_le_iff hhi).mp (le_refl hi) b hb
  have ha' : lo ≤ a := (List.le_min?_iff hlo).mp (le_refl lo) a ha
  rw [spread, hhi, hlo]
  simp only [Option.getD_some]
  linarith

/-- A spread is not negative. -/
theorem spread_nonneg (times : List ℚ) : 0 ≤ spread times := by
  cases times with
  | nil => simp [spread]
  | cons t times =>
    have h : t - t ≤ spread (t :: times) := sub_le_spread (by simp) (by simp)
    linarith

/-- What a key holds after some executions: between no tokens and the capacity, and the time
of the last execution. -/
theorem runScript_stored {rate capacity : ℚ} (hrate : 0 ≤ rate) (hcap : 0 ≤ capacity)
    {times : List ℚ} (hne : times ≠ []) :
    ∃ b, (runScript rate capacity times none).2 = some b ∧ 0 ≤ b.tokens ∧
      b.tokens ≤ capacity ∧ times.getLast? = some b.ts := by
  cases times with
  | nil => exact absurd rfl hne
  | cons now times =>
    rw [runScript_none, runScript_eq_drain]
    refine ⟨_, rfl, ?_, ?_, ?_⟩
    · exact drain_nonneg hcap hrate (forwardMoves_nonneg _ _) hcap
    · exact drain_le_cap (le_refl capacity)
    · rw [List.getLast?_cons, List.getLastD_cons, List.getLastD_eq_getLast?]

/-- No execution is sent a time before the stored one exactly when the times are in
order. -/
theorem clockForward_iff {rate capacity : ℚ} (hrate : 0 ≤ rate) (hcap : 0 ≤ capacity)
    {times : List ℚ} : ClockForward rate capacity times ↔ times.IsChain (· ≤ ·) := by
  constructor
  · intro h
    rw [List.isChain_iff_forall_rel_of_append_cons_cons]
    intro a now pre post heq
    obtain ⟨b, hb, -, -, hlast⟩ := runScript_stored hrate hcap
      (List.append_ne_nil_of_right_ne_nil pre (List.cons_ne_nil a []))
    -- After `pre` and `a` the key holds the time `a`.
    have hts : b.ts = a := by simpa using hlast.symm
    exact hts ▸ h (pre ++ [a]) now post b (by simpa using heq) hb
  · intro h pre now post b heq hb
    -- A key that holds a time has seen an execution.
    have hne : pre ≠ [] := by
      rintro rfl
      simp [runScript] at hb
    obtain ⟨b', hb', -, -, hlast⟩ := runScript_stored hrate hcap hne
    obtain rfl : b = b' := Option.some.inj (hb.symm.trans hb')
    obtain ⟨-, -, hjoin⟩ := List.isChain_append.mp (heq ▸ h)
    exact hjoin b.ts hlast now rfl

/-- From one stored bucket on, forward clocks admit at most the capacity plus the rate times any
window from its time to the last execution. -/
theorem admissions_le_window {rate capacity : ℚ} (hrate : 0 ≤ rate) (hcap : 0 ≤ capacity)
    {b : RedisBucket} {block : List ℚ} (hb : 0 ≤ b.tokens) (hle : b.tokens ≤ capacity)
    (hchain : (b.ts :: block).IsChain (· ≤ ·)) {w : ℚ} (hw : block.getLastD b.ts - b.ts ≤ w) :
    (admissions (runScript rate capacity block (some b)).1 : ℚ)
      ≤ capacity + rate * w / 1000 := by
  have hadm := admissions_le_forward hrate hcap block hb
  rw [forwardMoves_sum hchain] at hadm
  have hmul : rate * (block.getLastD b.ts - b.ts) ≤ rate * w :=
    mul_le_mul_of_nonneg_left hw hrate
  linarith

/-- **The cluster-wide quota**, for every rate, capacity and sequence of executions in which
no execution is sent a time before the one that the key holds. -/
theorem quotaHolds_of_clockForward {rate capacity : ℚ} (hrate : 0 < rate)
    (hcap : 1 ≤ capacity) {times : List ℚ} (h : ClockForward rate capacity times) :
    QuotaHolds rate capacity times := by
  have hcap0 : 0 ≤ capacity := le_trans zero_le_one hcap
  have hchain := (clockForward_iff hrate.le hcap0).mp h
  intro pre block post heq
  obtain ⟨hpre_block, -, -⟩ := List.isChain_append.mp (heq ▸ hchain)
  obtain ⟨-, hblock, hjoin⟩ := List.isChain_append.mp hpre_block
  by_cases hpre : pre = []
  · subst hpre
    cases block with
    | nil =>
      have hspread := spread_nonneg (([] : List ℚ).getLast?.toList ++ [])
      simp only [runScript, admissions, List.count_nil, Nat.cast_zero]
      positivity
    | cons now rest =>
      -- A fresh key: the window starts at the first execution of the block itself.
      have hlast : (now :: rest).getLastD now ∈ now :: rest := by
        rw [List.getLastD_cons]
        exact List.getLastD_mem_cons
      have hfull : (now :: now :: rest).IsChain (· ≤ ·) :=
        List.isChain_cons_cons.mpr ⟨le_refl _, hblock⟩
      show (admissions (runScript rate capacity (now :: rest) none).1 : ℚ)
        ≤ capacity + rate * spread (now :: rest) / 1000
      rw [runScript_none]
      exact admissions_le_window (b := ⟨capacity, now⟩) hrate.le hcap0 hcap0 (le_refl _) hfull
        (sub_le_spread List.mem_cons_self hlast)
  · -- The window starts at the execution before the block, whose time the key holds.
    obtain ⟨b, hb, hnn, hle, hlast⟩ := runScript_stored hrate.le hcap0 hpre
    rw [hb, hlast]
    have hb_chain : (b.ts :: block).IsChain (· ≤ ·) :=
      List.isChain_cons.mpr ⟨fun y hy => hjoin b.ts (by simp [hlast]) y hy, hblock⟩
    exact admissions_le_window hrate.le hcap0 hnn hle hb_chain
      (sub_le_spread List.mem_cons_self List.getLastD_mem_cons)

/-- The quota at one token per second and a burst of two, for executions at 0, 500 and
2000 ms. -/
theorem quotaHolds_three_executions : QuotaHolds 1 2 [0, 500, 2000] := by
  refine quotaHolds_of_clockForward (by norm_num) (by norm_num) ?_
  rw [clockForward_iff (by norm_num) (by norm_num)]
  norm_num

/-- One step back breaks the quota. At one token per second and a burst of one, executions
at 0, 1000, 0 and 1000 ms admit three, but their window is one second long: the second
between 0 and 1000 is credited twice. -/
theorem not_quotaHolds_clock_back : ¬ QuotaHolds 1 1 [0, 1000, 0, 1000] := by
  intro h
  have h4 := h [] [0, 1000, 0, 1000] [] rfl
  norm_num [runScript, tokenBucketScript, admissions, spread] at h4

end SparkGateway.Proofs.RateLimit
