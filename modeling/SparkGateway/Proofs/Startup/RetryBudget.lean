import Mathlib.Algebra.Order.Floor.Div
import SparkGateway.Spec.StartupRetry

/-!
# `SparkGateway.Proofs.Startup.RetryBudget`: the startup retry keeps to its budget

The loop of `retry_with_budget` has a deadline and no counter. It ends because every failed call
before the deadline is followed by a sleep of at least `interval`, so the intervals that still fit
between the next call and the deadline (`remaining`) become fewer.

`callOf` is the schedule of the calls: when the call of each number starts and ends, if the loop
gets that far. The state of the loop after `k` failed calls is `stateAfter k`, and its body is
described there by three lemmas, one for each way it can end. `retryWithBudget_keeps` puts them
into the rule for loops.
-/

set_option autoImplicit false

namespace SparkGateway.Proofs.Startup

open SparkGateway.Lib
open SparkGateway.Spec

/-! ### The schedule of the calls -/

section
variable {T E : Type} (world : ℕ → Attempt T E) (interval start : ℕ)

/-- When the call with this number starts: the first one at once, every other one when the sleep
after the one before is over. -/
def startOf : ℕ → ℕ
  | 0 => start
  | i + 1 => startOf i + (world i).duration + interval + (world i).overrun

/-- The time at which an attempt ends. -/
def endOf (i : ℕ) : ℕ := startOf world interval start i + (world i).duration

/-- The call of an attempt. -/
def callOf (i : ℕ) : ConnectCall T E :=
  ⟨startOf world interval start i, endOf world interval start i, (world i).outcome⟩

/-- The state of the loop when `k` calls have failed. -/
def stateAfter (k : ℕ) : RetryState T E :=
  ⟨startOf world interval start k, UInt32.ofNat k,
    (List.range k).map (callOf world interval start)⟩

end

/-- What the loop owes. It makes at least one call and at most one for each interval in the budget
and one more. All calls but the last one failed and ended before the deadline. The last one
succeeded, and then its value is returned, or it failed at or after the deadline, and then an
error is returned that names the number of calls. -/
structure KeepsBudget {T E : Type} (format : RetryFormat E) (world : ℕ → Attempt T E)
    (target : String) (budget interval start : ℕ) (run : RetryRun T E) : Prop where
  schedule : run.calls = (List.range run.calls.length).map (callOf world interval start)
  one_le : 1 ≤ run.calls.length
  length_le : run.calls.length ≤ budget ⌈/⌉ interval + 1
  ending : ∃ before last, run.calls = before ++ [last] ∧
    (∀ call ∈ before, (∃ e, call.outcome = .error e) ∧ call.ended < start + budget) ∧
    ((∃ v, last.outcome = .ok v ∧ run.result = .ok v) ∨
      ∃ e, last.outcome = .error e ∧ start + budget ≤ last.ended ∧
        run.result =
          .error (retryError format target budget (UInt32.ofNat run.calls.length) e))

/-! ### The body -/

section
variable {T E : Type} {format : RetryFormat E} {world : ℕ → Attempt T E} {target : String}
  {budget interval start : ℕ}

/-- The calls after one more attempt. -/
theorem calls_succ (k : ℕ) :
    (stateAfter world interval start k).calls ++ [callOf world interval start k]
      = (List.range (k + 1)).map (callOf world interval start) := by
  rw [List.range_succ, List.map_append]
  rfl

/-- There has been one call for each attempt. -/
theorem length_calls (k : ℕ) : (stateAfter world interval start k).calls.length = k := by
  simp [stateAfter]

/-- The attempt counter of the code, which wraps. -/
theorem attempt_succ (k : ℕ) :
    (stateAfter world interval start k).attempt + 1 = UInt32.ofNat (k + 1) := by
  rw [UInt32.ofNat_add]
  rfl

/-- An attempt that succeeds ends the loop with its value. -/
theorem body_success {k : ℕ} {v : T} (hv : (world k).outcome = .ok v) :
    retryBody format world target budget interval (start + budget)
        (stateAfter world interval start k)
      = .inl ⟨.ok v, (List.range (k + 1)).map (callOf world interval start)⟩ := by
  rw [← calls_succ]
  simp only [retryBody, length_calls, hv, callOf, endOf]
  rfl

/-- An attempt that fails at or after the deadline ends the loop with the retry error. -/
theorem body_deadline {k : ℕ} {e : E} (he : (world k).outcome = .error e)
    (hend : start + budget ≤ endOf world interval start k) :
    retryBody format world target budget interval (start + budget)
        (stateAfter world interval start k)
      = .inl ⟨.error (retryError format target budget (UInt32.ofNat (k + 1)) e),
          (List.range (k + 1)).map (callOf world interval start)⟩ := by
  rw [← calls_succ, ← attempt_succ]
  simp only [retryBody, length_calls, he, callOf]
  exact if_pos hend

/-- An attempt that fails before the deadline is followed by another. -/
theorem body_again {k : ℕ} {e : E} (he : (world k).outcome = .error e)
    (hend : endOf world interval start k < start + budget) :
    retryBody format world target budget interval (start + budget)
        (stateAfter world interval start k)
      = .inr (stateAfter world interval start (k + 1)) := by
  have hnext : stateAfter world interval start (k + 1)
      = ⟨endOf world interval start k + interval + (world k).overrun,
          (stateAfter world interval start k).attempt + 1,
          (stateAfter world interval start k).calls ++ [callOf world interval start k]⟩ := by
    rw [calls_succ, attempt_succ]
    rfl
  rw [hnext]
  simp only [retryBody, length_calls, he, callOf]
  exact if_neg (not_le.mpr hend)

/-! ### The intervals that remain -/

/-- The intervals that fit between the next call and the deadline, rounded up. -/
def remaining (budget interval start : ℕ) (s : RetryState T E) : ℕ :=
  (start + budget - s.now) ⌈/⌉ interval

/-- An interval that has passed is one less. -/
theorem ceilDiv_lt_of_le_sub {x y interval : ℕ} (hinterval : 0 < interval) (hx : 0 < x)
    (hy : y ≤ x - interval) : y ⌈/⌉ interval < x ⌈/⌉ interval := by
  have hcover : x ≤ interval * (x ⌈/⌉ interval) := (ceilDiv_le_iff_le_mul hinterval).mp le_rfl
  have hpos : 0 < x ⌈/⌉ interval := by
    by_contra hzero
    rw [Nat.eq_zero_of_not_pos hzero, Nat.mul_zero] at hcover
    omega
  have hle : y ⌈/⌉ interval ≤ x ⌈/⌉ interval - 1 := by
    rw [ceilDiv_le_iff_le_mul hinterval, Nat.mul_sub, Nat.mul_one]
    omega
  omega

/-- Each attempt leaves less time. -/
theorem remaining_lt (hinterval : 0 < interval) {k : ℕ}
    (hend : endOf world interval start k < start + budget) :
    remaining budget interval start (stateAfter world interval start (k + 1))
      < remaining budget interval start (stateAfter world interval start k) := by
  have hnext : startOf world interval start (k + 1)
      = endOf world interval start k + interval + (world k).overrun := rfl
  have hstart : startOf world interval start k ≤ endOf world interval start k :=
    Nat.le_add_right _ _
  refine ceilDiv_lt_of_le_sub hinterval ?_ ?_
  · show 0 < start + budget - startOf world interval start k
    omega
  · show start + budget - startOf world interval start (k + 1)
      ≤ start + budget - startOf world interval start k - interval
    omega

/-! ### The loop -/

/-- The loop is before the call number `k`: all calls so far failed before the deadline, and there
are no more of them than intervals have passed. -/
structure Retrying (world : ℕ → Attempt T E) (budget interval start k : ℕ) : Prop where
  failed : ∀ i < k, (∃ e, (world i).outcome = .error e) ∧
    endOf world interval start i < start + budget
  spent : k + remaining budget interval start (stateAfter world interval start k)
    ≤ budget ⌈/⌉ interval

/-- Before the first attempt nothing has failed. -/
theorem retrying_zero (world : ℕ → Attempt T E) (budget interval start : ℕ) :
    Retrying world budget interval start 0 where
  failed := fun i hi => absurd hi (Nat.not_lt_zero i)
  spent := by simp [remaining, stateAfter, startOf]

/-- An attempt that fails before the deadline keeps the loop going. -/
theorem Retrying.succ {k : ℕ} (h : Retrying world budget interval start k) {e : E}
    (hinterval : 0 < interval) (he : (world k).outcome = .error e)
    (hend : endOf world interval start k < start + budget) :
    Retrying world budget interval start (k + 1) where
  failed := by
    intro i hi
    by_cases hik : i = k
    · subst hik
      exact ⟨⟨e, he⟩, hend⟩
    · exact h.failed i (by omega)
  spent := by
    have hlt := remaining_lt hinterval hend
    have hspent := h.spent
    omega

/-- A loop that returns after the call number `k` has kept to the budget. -/
theorem Retrying.keeps {k : ℕ} (h : Retrying world budget interval start k)
    {result : Except String T}
    (hresult : (∃ v, (world k).outcome = .ok v ∧ result = .ok v) ∨
      ∃ e, (world k).outcome = .error e ∧ start + budget ≤ endOf world interval start k ∧
        result = .error (retryError format target budget (UInt32.ofNat (k + 1)) e)) :
    KeepsBudget format world target budget interval start
      ⟨result, (List.range (k + 1)).map (callOf world interval start)⟩ := by
  have hlength : ((List.range (k + 1)).map (callOf world interval start)).length = k + 1 := by
    simp
  constructor
  · rw [hlength]
  · rw [hlength]
    omega
  · have hspent := h.spent
    rw [hlength]
    omega
  · -- All calls but the last one failed before the deadline, and the last one decides.
    refine ⟨(List.range k).map (callOf world interval start), callOf world interval start k,
      (calls_succ k).symm, ?_, ?_⟩
    · intro call hcall
      obtain ⟨i, hi, rfl⟩ := List.mem_map.mp hcall
      exact h.failed i (List.mem_range.mp hi)
    · rw [hlength]
      exact hresult

/-- The body either returns, and then it has kept to the budget, or it goes on with fewer intervals
left. -/
theorem Retrying.body_cases (format : RetryFormat E) (target : String) {k : ℕ}
    (h : Retrying world budget interval start k) (hinterval : 0 < interval) :
    (∃ run, retryBody format world target budget interval (start + budget)
          (stateAfter world interval start k) = .inl run ∧
        KeepsBudget format world target budget interval start run) ∨
      retryBody format world target budget interval (start + budget)
          (stateAfter world interval start k) = .inr (stateAfter world interval start (k + 1)) ∧
        Retrying world budget interval start (k + 1) := by
  cases houtcome : (world k).outcome with
  | ok v => exact .inl ⟨_, body_success houtcome, h.keeps (.inl ⟨v, houtcome, rfl⟩)⟩
  | error e =>
    by_cases hend : start + budget ≤ endOf world interval start k
    · refine .inl ⟨_, body_deadline houtcome hend, h.keeps (.inr ⟨e, houtcome, hend, rfl⟩)⟩
    · have hbefore : endOf world interval start k < start + budget := not_le.mp hend
      exact .inr ⟨body_again houtcome hbefore, h.succ hinterval houtcome hbefore⟩

end

/-- **The startup retry.** Whatever the calls of `connect` do and however long they take, the loop
returns and keeps to its budget. One iteration for each interval in the budget and one more are
enough. -/
theorem retryWithBudget_keeps {T E : Type} (format : RetryFormat E) (world : ℕ → Attempt T E)
    (target : String) (budget interval start : ℕ) (hinterval : 0 < interval) :
    ∃ run : RetryRun T E,
      (∀ fuel, budget ⌈/⌉ interval + 1 ≤ fuel →
        retryWithBudget format world target budget interval start fuel = some run) ∧
      KeepsBudget format world target budget interval start run := by
  -- The loop is always before some call, and the time left goes down.
  let body := retryBody format world target budget interval (start + budget)
  let I := fun s => ∃ k, s = stateAfter world interval start k ∧
    Retrying world budget interval start k
  have hreturn : ∀ s run, I s → body s = .inl run →
      KeepsBudget format world target budget interval start run := by
    rintro s run ⟨k, rfl, hk⟩ hrun
    rcases hk.body_cases format target hinterval with ⟨run', hrun', hkeeps⟩ | ⟨hagain, -⟩
    · rw [Sum.inl.inj (hrun.symm.trans hrun')]
      exact hkeeps
    · cases hrun.symm.trans hagain
  have hnext : ∀ s next, I s → body s = .inr next →
      I next ∧ remaining budget interval start next < remaining budget interval start s := by
    rintro s next ⟨k, rfl, hk⟩ hgo
    rcases hk.body_cases format target hinterval with ⟨run, hrun, -⟩ | ⟨hagain, hk'⟩
    · cases hgo.symm.trans hrun
    · rw [Sum.inr.inj (hgo.symm.trans hagain)]
      exact ⟨⟨k + 1, rfl, hk'⟩, remaining_lt hinterval (hk'.failed k (Nat.lt_succ_self k)).2⟩
  have hzero := retrying_zero world budget interval start
  obtain ⟨run, hkeeps, hloop⟩ := loop_total I _ _ hreturn hnext
    (stateAfter world interval start 0) ⟨0, rfl, hzero⟩
  have hspent := hzero.spent
  exact ⟨run, fun fuel hfuel => hloop fuel (by omega), hkeeps⟩

/-! ### A Redis that is never there -/

/-- Every call fails at once, and no sleep overruns. -/
def refusing : ℕ → Attempt ℕ String := fun _ => ⟨0, .error "connection refused", 0⟩

/-- The budget in whole seconds, and the error as it is. -/
def wholeSeconds : RetryFormat String := ⟨fun ns => toString (ns / 1000000000), id⟩

/-- With the settings of the gateway, the call number 31 ends exactly at the deadline and is the
last one. -/
theorem retryWithBudget_keeps_refusing :
    ∃ run, retryRedisConnect wholeSeconds refusing "redis" 0 31 = some run ∧
      run.calls.length = 31 ∧
      KeepsBudget wholeSeconds refusing "redis" startupRedisRetryBudget startupRedisRetryInterval 0
        run := by
  obtain ⟨run, hrun, hkeeps⟩ := retryWithBudget_keeps wholeSeconds refusing "redis"
    startupRedisRetryBudget startupRedisRetryInterval 0 (by decide +kernel)
  have hreturned : retryRedisConnect wholeSeconds refusing "redis" 0 31 = some run :=
    hrun 31 (by decide +kernel)
  have hlength : (retryRedisConnect wholeSeconds refusing "redis" 0 31).map
      (fun run => run.calls.length) = some 31 := by
    decide +kernel
  rw [hreturned] at hlength
  exact ⟨run, hreturned, Option.some.inj hlength, hkeeps⟩

end SparkGateway.Proofs.Startup
