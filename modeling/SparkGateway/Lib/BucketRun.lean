import Mathlib.Data.List.Induction
import SparkGateway.Lib.BucketTable
import SparkGateway.Lib.Transcript

/-!
# `SparkGateway.Lib.BucketRun`: one token bucket, polled at given times

`poll cap rate` is one call on a bucket: refill for the time since the last call, then take
one token if there is one. `polls` is a run of calls on a bucket that was full at its start.
What a run says about the next call is the level that the call finds, the tokens of the
bucket refilled to its time (`levelAfter`). For calls in order of time:

* `le_levelAfter_iff`: the level is the smallest of the capacity and, for each earlier call,
  the capacity plus the refill since then minus the tokens given out since then. The bucket
  stores one number, and this is what the number says about all windows of the past;
* `successes_window_le`: in every window of time, a run gives out at most the capacity plus
  the rate times the length of the window;
* `levelAfter_successful`: calls that get no token leave no trace. The level is the same in the
  run of the successful calls alone.
-/

set_option autoImplicit false

namespace SparkGateway.Lib.TokenBucket

/-- How many calls of a run got a token. -/
def successes {K : Type} (calls : List (K × Bool)) : ℕ := calls.countP (·.2)

theorem successes_append {K : Type} (calls calls' : List (K × Bool)) :
    successes (calls ++ calls') = successes calls + successes calls' := List.countP_append

/-- One call succeeds as often as it costs tokens. -/
theorem successes_singleton {K : Type} [Field K] (now : K) (b : Bool) :
    ((successes [(now, b)] : ℕ) : K) = cost b := by
  cases b <;> simp [successes, cost]

/-- The calls at `times` are in order, and come after the time `start`. -/
def Ordered {K : Type} [LE K] (start : K) (times : List K) : Prop :=
  (start :: times).Pairwise (· ≤ ·)

section
variable {K : Type} [LE K] {start now : K} {times : List K}

/-- The calls before the last one are in order too. -/
theorem Ordered.of_snoc (h : Ordered start (times ++ [now])) : Ordered start times :=
  List.Pairwise.sublist ((List.sublist_append_left times [now]).cons_cons start) h

/-- In an ordered sequence no call is later than the last. -/
theorem Ordered.le_last (h : Ordered start (times ++ [now])) : ∀ t ∈ times, t ≤ now := by
  intro t ht
  obtain ⟨-, htimes⟩ := List.pairwise_cons.mp h
  exact (List.pairwise_append.mp htimes).2.2 t ht now (by simp)

/-- A call before the last one can be left out. -/
theorem Ordered.skip {last : K} (h : Ordered start (times ++ [last] ++ [now])) :
    Ordered start (times ++ [now]) := by
  refine List.Pairwise.sublist (List.Sublist.cons_cons start ?_) h
  exact (List.sublist_append_left times [last]).append_right [now]

end

section
variable {K : Type} [Field K] [LinearOrder K] (cap rate start : K)

/-- One call: refill, and take one token if there is one. -/
def poll (now : K) (l : Level K) : Bool × Level K :=
  ((take (levelAt cap rate now l)).1, ⟨(take (levelAt cap rate now l)).2, now⟩)

/-- The calls of a run on a bucket that is full at the time `start`, each with its answer. -/
def polls (times : List K) : List (K × Bool) :=
  transcript (poll cap rate) times ⟨cap, start⟩

/-- The bucket after the run. -/
def pollsFinal (times : List K) : Level K := final (poll cap rate) times ⟨cap, start⟩

/-- The level that a call at `now` finds after the run. -/
def levelAfter (times : List K) (now : K) : K :=
  levelAt cap rate now (pollsFinal cap rate start times)

/-- One more call is answered from the level that the earlier calls leave. -/
theorem polls_snoc (times : List K) (now : K) :
    polls cap rate start (times ++ [now]) = polls cap rate start times ++
      [(now, (take (levelAfter cap rate start times now)).1)] :=
  transcript_append _ _ _ _

/-- After one more call the bucket holds what that call left, stamped with its time. -/
theorem pollsFinal_snoc (times : List K) (now : K) :
    pollsFinal cap rate start (times ++ [now])
      = ⟨(take (levelAfter cap rate start times now)).2, now⟩ :=
  final_append _ _ _ _

/-- Every call has an answer. -/
theorem length_polls (times : List K) : (polls cap rate start times).length = times.length := by
  have hmap := congrArg List.length (map_fst_transcript (poll cap rate) times ⟨cap, start⟩)
  rwa [List.length_map] at hmap

/-- The answers to the first `i` calls are those of the run of these calls alone. -/
theorem take_polls (times : List K) (i : ℕ) :
    (polls cap rate start times).take i = polls cap rate start (times.take i) :=
  take_transcript _ _ _ _

/-- The refilled level never exceeds the capacity. -/
theorem levelAfter_le_cap (times : List K) (now : K) :
    levelAfter cap rate start times now ≤ cap := refill_le_cap _ _ _ _

/-- The bucket was last refilled before the next call. -/
theorem pollsFinal_last_le {times : List K} {now : K} (h : Ordered start (times ++ [now])) :
    (pollsFinal cap rate start times).last ≤ now := by
  rcases List.eq_nil_or_concat times with rfl | ⟨times, last, rfl⟩
  · exact (List.pairwise_cons.mp h).1 now (by simp)
  · rw [List.concat_eq_append, pollsFinal_snoc]
    exact h.le_last last (by simp)

/-- The times of the calls that got a token. -/
def successfulTimes (times : List K) : List K :=
  ((polls cap rate start times).filter (·.2)).map Prod.fst

/-- A call gets a token exactly when it finds one. -/
theorem take_fst_iff (tokens : K) : (take tokens).1 = true ↔ 1 ≤ tokens := by
  unfold take
  split <;> simp_all

end

section
variable {K : Type} [Field K] [LinearOrder K] [IsStrictOrderedRing K]
variable {cap rate start : K} {times : List K}

/-- A full bucket stays full until the first call. -/
theorem levelAfter_nil (hrate : 0 ≤ rate) (now : K) : levelAfter cap rate start [] now = cap :=
  refill_cap (le_max_left _ _) hrate

/-- The next call finds what the last one left, refilled. -/
theorem levelAfter_snoc {now now' : K} (hle : now ≤ now') :
    levelAfter cap rate start (times ++ [now]) now'
      = min cap (levelAfter cap rate start times now
          - cost (take (levelAfter cap rate start times now)).1 + (now' - now) * rate) := by
  have htake := take_balance (levelAfter cap rate start times now)
  rw [levelAfter, pollsFinal_snoc, levelAt, refill, max_eq_right (sub_nonneg.mpr hle)]
  congr 2
  exact eq_sub_of_add_eq htake

/-- **The law of the token bucket.** The level is the smallest of the capacity and, for each
earlier call, the capacity plus the refill since that call minus the tokens given out from it
on. -/
theorem le_levelAfter_iff (hrate : 0 ≤ rate) {now : K} (h : Ordered start (times ++ [now]))
    (y : K) :
    y ≤ levelAfter cap rate start times now ↔
      y ≤ cap ∧ ∀ j (hj : j < times.length),
        y + successes ((polls cap rate start times).drop j) ≤ cap + rate * (now - times[j]) := by
  induction times using List.reverseRecOn generalizing now y with
  | nil => simp [levelAfter_nil hrate]
  | append_singleton times last ih =>
    -- The bound `y` after the call at `last` is a bound on the level that this call found.
    have hlast : last ≤ now := h.le_last last (by simp)
    rw [levelAfter_snoc hlast, le_min_iff, polls_snoc]
    set b := (take (levelAfter cap rate start times last)).1
    have hmove : y ≤ levelAfter cap rate start times last - cost b + (now - last) * rate ↔
        y + cost b - (now - last) * rate ≤ levelAfter cap rate start times last := by
      constructor <;> intro hy <;> linarith
    rw [hmove, ih h.of_snoc]
    refine and_congr_right fun _ => ⟨?_, ?_⟩
    · rintro ⟨hcap, hprev⟩ j hj
      rcases Nat.lt_succ_iff_lt_or_eq.mp (by simpa using hj) with hj | rfl
      · have hwin := hprev j hj
        rw [List.drop_append_of_le_length (by rw [length_polls]; exact hj.le), successes_append,
          List.getElem_append_left hj, Nat.cast_add, successes_singleton]
        linarith
      · rw [List.drop_left' (length_polls _ _ _ _), successes_singleton]
        simp only [List.getElem_concat_length]
        linarith
    · intro hall
      refine ⟨?_, fun j hj => ?_⟩
      · have hwin := hall times.length (by simp)
        rw [List.drop_left' (length_polls _ _ _ _), successes_singleton] at hwin
        simp only [List.getElem_concat_length] at hwin
        linarith
      · have hwin := hall j (by simp; omega)
        rw [List.drop_append_of_le_length (by rw [length_polls]; exact hj.le), successes_append,
          List.getElem_append_left hj, Nat.cast_add, successes_singleton] at hwin
        linarith

/-! ### Windows of time -/

/-- From any time `since` on, the tokens given out and the level are at most the capacity plus
the refill since then. -/
theorem levelAfter_add_since_le (hrate : 0 ≤ rate) {since now : K} (hs : since ≤ now)
    (h : Ordered start (times ++ [now])) :
    levelAfter cap rate start times now
        + successes ((polls cap rate start times).filter fun c => since ≤ c.1)
      ≤ cap + rate * (now - since) := by
  induction times using List.reverseRecOn generalizing now with
  | nil =>
    have hrefill : 0 ≤ rate * (now - since) := mul_nonneg hrate (sub_nonneg.mpr hs)
    simpa [levelAfter_nil hrate, polls, transcript, successes] using hrefill
  | append_singleton times last ih =>
    have hlast : last ≤ now := h.le_last last (by simp)
    by_cases hwin : since ≤ last
    · -- The last call is in the window: what it gave out is no longer in the level.
      have hprev := ih hwin h.of_snoc
      have hnext : levelAfter cap rate start (times ++ [last]) now ≤ _ :=
        (levelAfter_snoc hlast).le.trans (min_le_right _ _)
      rw [polls_snoc, List.filter_append, successes_append,
        List.filter_cons_of_pos (by simpa using hwin), List.filter_nil, Nat.cast_add,
        successes_singleton]
      linarith
    · -- No call is in the window.
      have hnone : (polls cap rate start (times ++ [last])).filter (fun c => since ≤ c.1) = [] := by
        refine List.filter_eq_nil_iff.mpr fun c hc => ?_
        have hmem : c.1 ∈ times ++ [last] := by
          rw [← map_fst_transcript (poll cap rate) (times ++ [last]) ⟨cap, start⟩]
          exact List.mem_map_of_mem hc
        have hle : c.1 ≤ last := by
          rcases List.mem_append.mp hmem with hmem | hmem
          · exact h.of_snoc.le_last c.1 hmem
          · exact (List.mem_singleton.mp hmem).le
        simpa using lt_of_le_of_lt hle (not_le.mp hwin)
      have hcap := levelAfter_le_cap cap rate start (times ++ [last]) now
      have hrefill : 0 ≤ rate * (now - since) := mul_nonneg hrate (sub_nonneg.mpr hs)
      rw [hnone]
      simp only [successes, List.countP_nil, Nat.cast_zero]
      linarith

/-- In every window of time, a run gives out at most the capacity plus the rate times the
length of the window. -/
theorem successes_window_le (hrate : 0 ≤ rate) (hcap : 0 ≤ cap) (h : Ordered start times)
    {since til : K} (hle : since ≤ til) :
    (successes ((polls cap rate start times).filter fun c => since ≤ c.1 ∧ c.1 ≤ til) : K)
      ≤ cap + rate * (til - since) := by
  have hrefill : 0 ≤ rate * (til - since) := mul_nonneg hrate (sub_nonneg.mpr hle)
  induction times using List.reverseRecOn with
  | nil =>
    simp only [polls, transcript, List.filter_nil, successes, List.countP_nil, Nat.cast_zero]
    linarith
  | append_singleton times last ih =>
    rw [polls_snoc, List.filter_append, successes_append, Nat.cast_add]
    by_cases hwin : since ≤ last ∧ last ≤ til
    · cases htake : (take (levelAfter cap rate start times last)).1 with
      | false =>
        rw [List.filter_cons_of_pos (by simpa using hwin), List.filter_nil, successes_singleton]
        simpa [cost] using ih h.of_snoc
      | true =>
        -- The last token of the window was in the level that its call found.
        have hfound := (take_fst_iff _).mp htake
        have hsince : levelAfter cap rate start times last + _ ≤ _ :=
          levelAfter_add_since_le hrate hwin.1 h
        have hsub : successes ((polls cap rate start times).filter
              fun c => since ≤ c.1 ∧ c.1 ≤ til)
            ≤ successes ((polls cap rate start times).filter fun c => since ≤ c.1) := by
          refine List.Sublist.countP_le (List.monotone_filter_right _ fun c hc => ?_)
          simp only [decide_eq_true_eq] at hc ⊢
          exact hc.1
        have hsub' : (successes ((polls cap rate start times).filter
              fun c => since ≤ c.1 ∧ c.1 ≤ til) : K)
            ≤ successes ((polls cap rate start times).filter fun c => since ≤ c.1) :=
          Nat.cast_le.mpr hsub
        have htil : rate * (last - since) ≤ rate * (til - since) :=
          mul_le_mul_of_nonneg_left (by linarith) hrate
        rw [List.filter_cons_of_pos (by simpa using hwin), List.filter_nil, successes_singleton]
        simp only [cost, if_true]
        linarith
    · rw [List.filter_cons_of_neg (by simpa using hwin), List.filter_nil]
      simpa [successes] using ih h.of_snoc

/-! ### Calls that get no token -/

/-- Calls that get no token leave no trace: the next call finds the level that it finds after
the successful calls alone. -/
theorem levelAfter_successful (hrate : 0 ≤ rate) {now : K} (h : Ordered start (times ++ [now])) :
    levelAfter cap rate start (successfulTimes cap rate start times) now
      = levelAfter cap rate start times now := by
  induction times using List.reverseRecOn generalizing now with
  | nil => rfl
  | append_singleton times last ih =>
    have hlast : last ≤ now := h.le_last last (by simp)
    have hsplit : successfulTimes cap rate start (times ++ [last])
        = successfulTimes cap rate start times ++
          (if (take (levelAfter cap rate start times last)).1 then [last] else []) := by
      unfold successfulTimes
      rw [polls_snoc, List.filter_append, List.map_append]
      cases (take (levelAfter cap rate start times last)).1 <;> rfl
    rw [hsplit]
    cases htake : (take (levelAfter cap rate start times last)).1 with
    | true =>
      rw [if_pos rfl, levelAfter_snoc hlast, levelAfter_snoc hlast, ih h.of_snoc]
    | false =>
      -- The level refills from the one that the failed call found and left.
      have hlater : levelAfter cap rate start times now
          = refill cap rate (now - last) (levelAfter cap rate start times last) :=
        levelAt_later (pollsFinal_last_le _ _ _ h.of_snoc) hrate hlast
      rw [if_neg Bool.false_ne_true, List.append_nil, ih h.skip, levelAfter_snoc hlast, htake,
        hlater, refill, cost, if_neg Bool.false_ne_true, sub_zero]

end

end SparkGateway.Lib.TokenBucket
