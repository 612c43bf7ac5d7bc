import SparkGateway.Lib.BucketRun
import SparkGateway.Proofs.RateLimit.MemoryTable

/-!
# `SparkGateway.Proofs.RateLimit.BucketLaw`: what a bucket answers, from its past answers

A `Bucket` keeps one number and one time. `tryTakes` is a sequence of `try_take` calls on a
bucket, each with its answer. `tryTakes_eq` says that it is a run of the token bucket of
`Lib/BucketRun.lean`, and `tryTake_law` has the law for it: a call succeeds exactly when no
window of calls that ends with it gives out more than the capacity plus the refill of the
window. The bound on windows of time and the irrelevance of failed calls follow.
-/

set_option autoImplicit false

namespace SparkGateway.Proofs.RateLimit

open SparkGateway.Lib
open SparkGateway.Lib.TokenBucket
open SparkGateway.Spec

/-- Calls of `try_take` on one bucket at the given times, each with its answer. -/
def tryTakes (b : Bucket) (times : List ℚ) : List (ℚ × Bool) :=
  transcript (fun now b => b.tryTake now) times b

/-- What a call finds in the bucket. -/
theorem bucketBalance_eq_levelAt (b : Bucket) (now : ℚ) :
    bucketBalance b now = levelAt b.capacity b.ratePerSecond now (levelOf b) := min_comm _ _

/-- A call on a bucket is a call on its level, and keeps the rate and the capacity. -/
theorem tryTake_eq_poll (b : Bucket) (now : ℚ) :
    (b.tryTake now).1 = (poll b.capacity b.ratePerSecond now (levelOf b)).1 ∧
      levelOf (b.tryTake now).2 = (poll b.capacity b.ratePerSecond now (levelOf b)).2 ∧
      (b.tryTake now).2.capacity = b.capacity ∧
      (b.tryTake now).2.ratePerSecond = b.ratePerSecond := by
  rw [tryTake_eq, bucketBalance_eq_levelAt]
  exact ⟨rfl, rfl, rfl, rfl⟩

/-- A sequence of calls on a bucket is a run on its level. -/
theorem tryTakes_eq_transcript (b : Bucket) (times : List ℚ) :
    tryTakes b times = transcript (poll b.capacity b.ratePerSecond) times (levelOf b) := by
  induction times generalizing b with
  | nil => rfl
  | cons now times ih =>
    obtain ⟨hfst, hlevel, hcap, hrate⟩ := tryTake_eq_poll b now
    have hrest := ih (b.tryTake now).2
    rw [hlevel, hcap, hrate] at hrest
    show (now, (b.tryTake now).1) :: tryTakes (b.tryTake now).2 times = _
    rw [hfst, hrest]
    rfl

/-- A sequence of calls on a new bucket. -/
theorem tryTakes_eq (rate : BucketRate) (created : ℚ) (times : List ℚ) :
    tryTakes (Bucket.new rate created) times
      = polls (rate.burst : ℚ) rate.rpcsPerSecond created times :=
  tryTakes_eq_transcript _ _

section
variable {rate : BucketRate} {created : ℚ} {times : List ℚ}

/-- The answer to a call, from the level it finds. -/
theorem getElem?_tryTakes {i : ℕ} (hi : i < times.length) :
    (tryTakes (Bucket.new rate created) times)[i]? = some (times[i],
      (take (levelAfter (rate.burst : ℚ) rate.rpcsPerSecond created
        (times.take i) times[i])).1) := by
  rw [tryTakes_eq]
  exact getElem?_transcript _ _ _ i hi

/-- The calls up to a position are in order. -/
theorem ordered_take (h : Ordered created times) {i : ℕ} (hi : i < times.length) :
    Ordered created (times.take i ++ [times[i]]) := by
  rw [List.take_concat_get' times i hi]
  exact List.Pairwise.sublist ((List.take_sublist _ _).cons_cons created) h

/-- A call succeeds exactly when no window of calls that ends with it gives out too much. -/
theorem succeeds_iff (hrate : 0 ≤ rate.rpcsPerSecond) (hburst : (1 : ℚ) ≤ rate.burst)
    (hord : Ordered created times) {i : ℕ} (hi : i < times.length) :
    (tryTakes (Bucket.new rate created) times)[i]? = some (times[i], true) ↔
      ∀ j (hj : j ≤ i),
        (successes (((tryTakes (Bucket.new rate created) times).take i).drop j) : ℚ) + 1
          ≤ rate.burst + rate.rpcsPerSecond * (times[i] - times[j]) := by
  have hlen : (times.take i).length = i := List.length_take_of_le hi.le
  rw [getElem?_tryTakes hi, Option.some_inj, Prod.mk.injEq, eq_self, true_and, take_fst_iff,
    le_levelAfter_iff hrate (ordered_take hord hi), tryTakes_eq, take_polls]
  constructor
  · rintro ⟨-, hwin⟩ j hj
    rcases Nat.lt_or_eq_of_le hj with hj | rfl
    · have hwin_j := hwin j (hlen.symm ▸ hj)
      rw [List.getElem_take] at hwin_j
      linarith
    · -- The window of the call alone: one token is within the burst.
      rw [List.drop_of_length_le (by rw [length_polls, hlen]), sub_self, mul_zero, add_zero]
      simpa [successes] using hburst
  · intro hall
    refine ⟨hburst, fun j hj => ?_⟩
    have hwin_j := hall j (hlen ▸ hj).le
    rw [List.getElem_take]
    linarith

/-- Each call is answered as after the successful calls before it alone. -/
theorem answer_after_successful (hrate : 0 ≤ rate.rpcsPerSecond)
    (hord : Ordered created times) {i : ℕ} (hi : i < times.length) :
    (tryTakes (Bucket.new rate created)
        ((((tryTakes (Bucket.new rate created) times).take i).filter (·.2)).map Prod.fst
          ++ [times[i]])).getLast?
      = (tryTakes (Bucket.new rate created) times)[i]? := by
  have hlevel := @levelAfter_successful ℚ _ _ _ (rate.burst : ℚ) _ _ _ hrate _
    (ordered_take hord hi)
  rw [getElem?_tryTakes hi, tryTakes_eq, tryTakes_eq, polls_snoc, List.getLast?_concat,
    take_polls, ← hlevel]
  rfl

end

/-- **The law of `Bucket::try_take`**, for calls in order of time on a new, enabled bucket.
A call succeeds exactly when for every earlier call, and for itself, the successes from there
on and one more are at most the burst plus the rate times the time since. In every window of
time at most the burst plus the rate times its length succeed. And each call is answered as
it would be after the successful calls before it alone. -/
theorem tryTake_law (rate : BucketRate) (created : ℚ) (times : List ℚ)
    (hon : rate.isEnabled = true) (hord : Ordered created times) :
    (∀ i (hi : i < times.length),
      ((tryTakes (Bucket.new rate created) times)[i]? = some (times[i], true) ↔
        ∀ j (hj : j ≤ i),
          (successes (((tryTakes (Bucket.new rate created) times).take i).drop j) : ℚ) + 1
            ≤ rate.burst + rate.rpcsPerSecond * (times[i] - times[j]))) ∧
    (∀ since til, since ≤ til →
      (successes ((tryTakes (Bucket.new rate created) times).filter
          fun c => since ≤ c.1 ∧ c.1 ≤ til) : ℚ)
        ≤ rate.burst + rate.rpcsPerSecond * (til - since)) ∧
    (∀ i (hi : i < times.length),
      (tryTakes (Bucket.new rate created)
          ((((tryTakes (Bucket.new rate created) times).take i).filter (·.2)).map Prod.fst
            ++ [times[i]])).getLast?
        = (tryTakes (Bucket.new rate created) times)[i]?) := by
  -- An enabled bucket has a rate above zero and room for a token.
  obtain ⟨hr, hb⟩ := Bool.and_eq_true_iff.mp hon
  have hrate : 0 ≤ rate.rpcsPerSecond := (of_decide_eq_true hr).le
  have hburst : (1 : ℚ) ≤ rate.burst := Nat.one_le_cast.mpr (of_decide_eq_true hb)
  refine ⟨fun i hi => succeeds_iff hrate hburst hord hi, fun since til hle => ?_,
    fun i hi => answer_after_successful hrate hord hi⟩
  rw [tryTakes_eq]
  exact successes_window_le hrate (le_trans zero_le_one hburst) hord hle

/-- At one token per second and a burst of one, with calls at 0, 1/2 and 1: the second fails,
since with it the window from the first one on would give out two tokens in half a second. -/
theorem tryTake_law_three_calls :
    (⟨1, 1⟩ : BucketRate).isEnabled = true ∧ Ordered (0 : ℚ) [0, 1 / 2, 1] ∧
      (tryTakes (Bucket.new ⟨1, 1⟩ 0) [0, 1 / 2, 1])[1]? ≠ some (1 / 2, true) := by
  have hon : (⟨1, 1⟩ : BucketRate).isEnabled = true := by decide +kernel
  have hord : Ordered (0 : ℚ) [0, 1 / 2, 1] := by norm_num [Ordered]
  refine ⟨hon, hord, fun h => ?_⟩
  have hwin := ((tryTake_law ⟨1, 1⟩ 0 [0, 1 / 2, 1] hon hord).1 1 (by decide)).mp h 0 (by decide)
  have hcount : successes (((tryTakes (Bucket.new ⟨1, 1⟩ 0) [0, 1 / 2, 1]).take 1).drop 0) = 1 := by
    decide +kernel
  rw [hcount] at hwin
  norm_num at hwin

end SparkGateway.Proofs.RateLimit
