import Mathlib.Data.List.DropRight
import SparkGateway.Lib.Steps

/-!
# `SparkGateway.Lib.Hysteresis`: a switch with two thresholds

Good and bad observations come one after another. `trip` bad ones in a row trip the switch, and
`reset` good ones in a row put it back. `Tripped` says this of the whole sequence: somewhere a
run of `trip` bad observations is completed, and after it no run of `reset` good ones.

An implementation keeps one counter instead of the sequence. The rules for it are those for one
more observation, `tripped_snoc_false` and `tripped_snoc_true`: the only thing they ask of the
past besides the switch itself is the run that the sequence ends with, of bad observations while
the switch is in place and of good ones while it is tripped. Both stay below their thresholds.
-/

set_option autoImplicit false

namespace SparkGateway.Lib

/-! ### The run at the end of a sequence -/

/-- How many times `v` stands at the end of the sequence. -/
def tailRun (v : Bool) (obs : List Bool) : ℕ :=
  (obs.rtakeWhile (· == v)).length

/-- No observation, no run of equal ones at the end. -/
@[simp]
theorem tailRun_nil (v : Bool) : tailRun v [] = 0 := by
  simp [tailRun]

/-- One more observation extends the run at the end or breaks it. -/
@[simp]
theorem tailRun_snoc (v x : Bool) (obs : List Bool) :
    tailRun v (obs ++ [x]) = if x = v then tailRun v obs + 1 else 0 := by
  unfold tailRun
  rw [List.rtakeWhile_concat]
  by_cases hx : x = v
  · simp [hx]
  · simp [hx]

/-- The sequence ends with `n` times `v`. -/
theorem replicate_suffix_iff (v : Bool) (n : ℕ) (obs : List Bool) :
    List.replicate n v <:+ obs ↔ n ≤ tailRun v obs := by
  induction obs using List.reverseRecOn generalizing n with
  | nil => simp
  | append_singleton pre x ih =>
    cases n with
    | zero => simp
    | succ n =>
      -- A nonempty run at the end has the last observation in it.
      rw [List.suffix_concat_iff, tailRun_snoc]
      constructor
      · rintro (hnil | ⟨t, ht, hsuffix⟩)
        · cases hnil
        · rw [List.replicate_succ'] at ht
          obtain ⟨rfl, hx⟩ := List.append_inj' ht rfl
          cases hx
          rw [if_pos rfl]
          exact Nat.succ_le_succ ((ih n).mp hsuffix)
      · intro hle
        split at hle
        · rename_i hx
          subst hx
          refine .inr ⟨List.replicate n x, List.replicate_succ', ?_⟩
          exact (ih n).mpr (Nat.le_of_succ_le_succ hle)
        · omega

/-! ### The switch -/

/-- The observation `x` completes `n` times `v` in a row. -/
def Completes (v : Bool) (n : ℕ) (pre : List Bool) (x : Bool) : Prop :=
  List.replicate n v <:+ pre ++ [x]

/-- Whether an observation completes a run can be decided. -/
instance (v : Bool) (n : ℕ) (pre : List Bool) (x : Bool) : Decidable (Completes v n pre x) :=
  inferInstanceAs (Decidable (List.replicate n v <:+ pre ++ [x]))

/-- An observation completes a run when, counted in, the run at the end is long enough. -/
theorem completes_iff (v : Bool) (n : ℕ) (pre : List Bool) (x : Bool) :
    Completes v n pre x ↔ n ≤ if x = v then tailRun v pre + 1 else 0 := by
  unfold Completes
  rw [replicate_suffix_iff, tailRun_snoc]

/-- Somewhere `trip` bad observations in a row are completed, and after that no `reset` good
ones. -/
def Tripped (trip reset : ℕ) : List Bool → Prop :=
  Since (Completes false trip) (Completes true reset)

/-- Whether a sequence leaves the switch tripped can be decided. -/
instance (trip reset : ℕ) : DecidablePred (Tripped trip reset) :=
  inferInstanceAs (DecidablePred (Since _ _))

section
variable {trip reset : ℕ} (obs : List Bool)

/-- The switch starts untripped. -/
theorem not_tripped_nil : ¬ Tripped trip reset [] :=
  not_since_nil

/-- A bad observation trips the switch if it completes the run. -/
theorem tripped_snoc_false (hreset : 0 < reset) :
    Tripped trip reset (obs ++ [false]) ↔
      trip ≤ tailRun false obs + 1 ∨ Tripped trip reset obs := by
  unfold Tripped
  rw [since_snoc, completes_iff, completes_iff, if_pos rfl, if_neg Bool.false_ne_true,
    Nat.le_zero, and_iff_left hreset.ne']

/-- A good observation leaves the switch tripped if it does not complete the run. -/
theorem tripped_snoc_true (htrip : 0 < trip) :
    Tripped trip reset (obs ++ [true]) ↔
      Tripped trip reset obs ∧ tailRun true obs + 1 < reset := by
  unfold Tripped
  rw [since_snoc, completes_iff, completes_iff, if_pos rfl, if_neg Bool.false_ne_true.symm,
    Nat.le_zero, or_iff_right htrip.ne', Nat.not_le]

/-- While the switch is tripped, the run of good observations is short. -/
theorem tailRun_lt_of_tripped (htrip : 0 < trip) (hreset : 0 < reset)
    (h : Tripped trip reset obs) : tailRun true obs < reset := by
  induction obs using List.reverseRecOn with
  | nil => exact absurd h not_tripped_nil
  | append_singleton pre x _ =>
    cases x with
    | false => simpa using hreset
    | true => simpa using ((tripped_snoc_true pre htrip).mp h).2

/-- While it is in place, the run of bad observations is short. -/
theorem tailRun_lt_of_not_tripped (htrip : 0 < trip) (hreset : 0 < reset)
    (h : ¬ Tripped trip reset obs) : tailRun false obs < trip := by
  induction obs using List.reverseRecOn with
  | nil => simpa using htrip
  | append_singleton pre x _ =>
    cases x with
    | false =>
      rw [tripped_snoc_false pre hreset, not_or, Nat.not_le] at h
      simpa using h.1
    | true => simpa using htrip

end

end SparkGateway.Lib
