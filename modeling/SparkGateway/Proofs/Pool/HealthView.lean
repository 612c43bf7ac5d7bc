import SparkGateway.Lib.Hysteresis
import SparkGateway.Spec.HealthCheck

/-!
# `SparkGateway.Proofs.Pool.HealthView`: the health view is the documented hysteresis

The documentation says when a backend is served in terms of its probes: `unhealthy_threshold`
failures in a row evict it, `healthy_threshold` successes in a row re-admit it. `Evicted` says
this of the outcomes of a backend over the most recent rounds that listed it. A round that does
not list it ends its history, since the round drops its entry.

The code keeps a state and one counter for each backend. `Accounts` relates them to the outcomes:
the state is the switch of `Lib.Hysteresis`, and the counter is the run that the outcomes end
with, of failures while healthy and of successes while unhealthy. Every probe keeps it
(`accounts_applyProbe`), so every history of calls does (`accounts_after`), and `healthView` reads
the served list off the outcomes.
-/

set_option autoImplicit false

namespace SparkGateway.Proofs.Pool

open SparkGateway.Lib
open SparkGateway.Spec

/-! ### The outcomes of a backend -/

/-- The outcomes of the probes of a backend in a round. It has several if it is listed more than
once. -/
def outcomesIn (addr : String) (round : ProbeRound) : List Bool :=
  (round.results.filter fun result => result.1 = addr).map Prod.snd

/-- The outcomes of a backend over the longest run of most recent rounds that all list it. -/
def recentOutcomes (addr : String) (rounds : List ProbeRound) : List Bool :=
  (rounds.rtakeWhile fun round => addr ∈ round.backends).flatMap (outcomesIn addr)

/-- A threshold of 0 acts as 1. -/
def threshold (n : UInt32) : ℕ := max n.toNat 1

/-- The outcomes complete `unhealthy_threshold` failures in a row, and after that no
`healthy_threshold` successes in a row. -/
def Evicted (cfg : HealthCheckConfig) (rounds : List ProbeRound) (addr : String) : Prop :=
  Tripped (threshold cfg.unhealthyThreshold) (threshold cfg.healthyThreshold)
    (recentOutcomes addr rounds)

/-- Whether a backend is evicted can be decided. -/
instance (cfg : HealthCheckConfig) (rounds : List ProbeRound) :
    DecidablePred (Evicted cfg rounds) := fun addr =>
  inferInstanceAs (Decidable (Tripped _ _ (recentOutcomes addr rounds)))

/-- The rounds of a history of calls. -/
def probeRounds (calls : List PoolCall) : List ProbeRound :=
  calls.filterMap fun
    | .probeAll round => some round
    | .pick _ => none
    | .markUnhealthy _ => none

/-- A backend that a round does not list has no outcome in it. -/
theorem outcomesIn_of_not_listed {addr : String} {round : ProbeRound}
    (h : addr ∉ round.backends) : outcomesIn addr round = [] := by
  unfold outcomesIn
  rw [List.map_eq_nil_iff, List.filter_eq_nil_iff]
  rintro ⟨other, ok⟩ hmem hsame
  obtain ⟨⟨listed, reply⟩, hlisted, hreply⟩ := List.mem_filterMap.mp hmem
  obtain ⟨_, -, hresult⟩ := Option.map_eq_some_iff.mp hreply
  obtain rfl : listed = other := congrArg Prod.fst hresult
  obtain rfl : listed = addr := by simpa using hsame
  exact h (List.mem_map_of_mem hlisted)

/-- One more round adds its outcomes, or ends the history. -/
theorem recentOutcomes_snoc (addr : String) (rounds : List ProbeRound) (round : ProbeRound) :
    recentOutcomes addr (rounds ++ [round]) =
      if addr ∈ round.backends then recentOutcomes addr rounds ++ outcomesIn addr round
      else [] := by
  unfold recentOutcomes
  rw [List.rtakeWhile_concat]
  by_cases hlisted : addr ∈ round.backends
  · simp [hlisted]
  · simp [hlisted]

/-! ### One probe -/

section
variable (cfg : HealthCheckConfig)

/-- The status has the state of the switch, and its streak is the run that could change it. -/
structure Accounts (status : BackendStatus) (obs : List Bool) : Prop where
  state : status.state = .unhealthy ↔
    Tripped (threshold cfg.unhealthyThreshold) (threshold cfg.healthyThreshold) obs
  streak : status.streak.toNat = tailRun (status.state == .unhealthy) obs

/-- No threshold is zero. -/
theorem threshold_pos (n : UInt32) : 0 < threshold n :=
  Nat.lt_of_lt_of_le Nat.one_pos (Nat.le_max_right _ _)

/-- Below the threshold the counter does not saturate. -/
theorem toNat_saturatingAdd_one {x n : UInt32} (h : x.toNat < threshold n) :
    (saturatingAdd x 1).toNat = x.toNat + 1 := by
  have hn : n.toNat < UInt32.size := n.toNat_lt_size
  have hroom : x.toNat + (1 : UInt32).toNat < UInt32.size := by
    unfold threshold at h
    have hone : (1 : UInt32).toNat = 1 := rfl
    have hsize : UInt32.size = 4294967296 := rfl
    omega
  unfold saturatingAdd
  rw [if_pos hroom, UInt32.toNat_add, Nat.mod_eq_of_lt hroom]
  rfl

/-- The comparison of the code is the one of the switch. -/
theorem le_saturatingAdd_one_iff {x n : UInt32} (h : x.toNat < threshold n) :
    n ≤ saturatingAdd x 1 ↔ threshold n ≤ x.toNat + 1 := by
  rw [UInt32.le_iff_toNat_le, toNat_saturatingAdd_one h]
  unfold threshold
  omega

/-- A new backend is in step with an empty history. -/
theorem accounts_fresh : Accounts cfg BackendStatus.fresh [] := by
  constructor
  · exact iff_of_false (fun h => nomatch h) not_tripped_nil
  · simp [BackendStatus.fresh]

variable {cfg}

/-- A probe of a healthy backend. -/
theorem accounts_applyProbe_healthy {streak : UInt32} {obs : List Bool}
    (h : Accounts cfg ⟨.healthy, streak⟩ obs) (ok : Bool) :
    Accounts cfg (applyProbe cfg ⟨.healthy, streak⟩ ok) (obs ++ [ok]) := by
  have htrip := threshold_pos cfg.unhealthyThreshold
  have hreset := threshold_pos cfg.healthyThreshold
  have hnot : ¬ Tripped (threshold cfg.unhealthyThreshold) (threshold cfg.healthyThreshold) obs :=
    mt h.state.mpr (fun heq => nomatch heq)
  have hstreak : streak.toNat = tailRun false obs := h.streak
  have hshort : streak.toNat < threshold cfg.unhealthyThreshold :=
    hstreak ▸ tailRun_lt_of_not_tripped obs htrip hreset hnot
  cases ok with
  | true =>
    constructor
    · refine iff_of_false (fun heq => nomatch heq) ?_
      rw [tripped_snoc_true obs htrip]
      exact fun htripped => hnot htripped.1
    · simp [applyProbe]
  | false =>
    unfold applyProbe
    simp only [ge_iff_le, le_saturatingAdd_one_iff hshort]
    split
    · -- The failure completes the run.
      rename_i hreached
      refine ⟨iff_of_true rfl ?_, by simp⟩
      rw [tripped_snoc_false obs hreset, ← hstreak]
      exact .inl hreached
    · rename_i hreached
      constructor
      · refine iff_of_false (fun heq => nomatch heq) ?_
        rw [tripped_snoc_false obs hreset, ← hstreak]
        exact not_or.mpr ⟨hreached, hnot⟩
      · show (saturatingAdd streak 1).toNat = tailRun false (obs ++ [false])
        rw [toNat_saturatingAdd_one hshort, tailRun_snoc, if_pos rfl, hstreak]

/-- A probe of an unhealthy backend. -/
theorem accounts_applyProbe_unhealthy {streak : UInt32} {obs : List Bool}
    (h : Accounts cfg ⟨.unhealthy, streak⟩ obs) (ok : Bool) :
    Accounts cfg (applyProbe cfg ⟨.unhealthy, streak⟩ ok) (obs ++ [ok]) := by
  have htrip := threshold_pos cfg.unhealthyThreshold
  have hreset := threshold_pos cfg.healthyThreshold
  have htripped := h.state.mp rfl
  have hstreak : streak.toNat = tailRun true obs := h.streak
  have hshort : streak.toNat < threshold cfg.healthyThreshold :=
    hstreak ▸ tailRun_lt_of_tripped obs htrip hreset htripped
  cases ok with
  | false =>
    constructor
    · refine iff_of_true rfl ?_
      rw [tripped_snoc_false obs hreset]
      exact .inr htripped
    · simp [applyProbe]
  | true =>
    unfold applyProbe
    simp only [ge_iff_le, le_saturatingAdd_one_iff hshort]
    split
    · -- The success completes the run.
      rename_i hreached
      refine ⟨iff_of_false (fun heq => nomatch heq) ?_, by simp⟩
      rw [tripped_snoc_true obs htrip, ← hstreak]
      exact fun hstill => absurd hreached (Nat.not_le.mpr hstill.2)
    · rename_i hreached
      constructor
      · refine iff_of_true rfl ?_
        rw [tripped_snoc_true obs htrip, ← hstreak]
        exact ⟨htripped, Nat.not_le.mp hreached⟩
      · show (saturatingAdd streak 1).toNat = tailRun true (obs ++ [true])
        rw [toNat_saturatingAdd_one hshort, tailRun_snoc, if_pos rfl, hstreak]

/-- A probe keeps the status in step with the history. -/
theorem accounts_applyProbe {status : BackendStatus} {obs : List Bool} (h : Accounts cfg status obs)
    (ok : Bool) : Accounts cfg (applyProbe cfg status ok) (obs ++ [ok]) := by
  obtain ⟨state, streak⟩ := status
  cases state with
  | healthy => exact accounts_applyProbe_healthy h ok
  | unhealthy => exact accounts_applyProbe_unhealthy h ok

/-- The probes of a round, one after another. -/
theorem accounts_applyProbes {status : BackendStatus} {obs : List Bool}
    (h : Accounts cfg status obs) (oks : List Bool) :
    Accounts cfg (oks.foldl (applyProbe cfg) status) (obs ++ oks) := by
  induction oks generalizing status obs with
  | nil => simpa using h
  | cons ok oks ih =>
    have hrest := ih (accounts_applyProbe h ok)
    rwa [List.append_assoc] at hrest

end

/-! ### Rounds and histories -/

/-- The status of a backend. One without an entry counts as fresh. -/
def statusOf (pool : HealthAwarePool) (addr : String) : BackendStatus :=
  (pool.statuses addr).getD BackendStatus.fresh

section
variable (cfg : HealthCheckConfig)

/-- The results of a round change the entry of a backend by its own outcomes. -/
theorem applyResults_status (addr : String) (results : List (String × Bool))
    (statuses : String → Option BackendStatus) :
    (results.foldl (HealthAwarePool.applyResult cfg) statuses addr).getD BackendStatus.fresh =
      ((results.filter fun result => result.1 = addr).map Prod.snd).foldl (applyProbe cfg)
        ((statuses addr).getD BackendStatus.fresh) := by
  induction results generalizing statuses with
  | nil => rfl
  | cons result results ih =>
    obtain ⟨other, ok⟩ := result
    rw [List.foldl_cons, ih]
    by_cases hsame : other = addr
    · subst hsame
      simp [HealthAwarePool.applyResult]
    · simp [HealthAwarePool.applyResult, hsame, Function.update_of_ne (Ne.symm hsame)]

/-- A round gives a backend that it lists its outcomes, and any other one a fresh status. -/
theorem probeAll_status (round : ProbeRound) (pool : HealthAwarePool) (addr : String) :
    statusOf (pool.probeAll cfg round) addr =
      if addr ∈ round.backends then
        (outcomesIn addr round).foldl (applyProbe cfg) (statusOf pool addr)
      else BackendStatus.fresh := by
  unfold HealthAwarePool.probeAll statusOf
  split
  · rename_i hempty
    rw [List.isEmpty_iff.mp hempty]
    rfl
  · rw [applyResults_status]
    by_cases hlisted : addr ∈ round.backends
    · simp only [hlisted, if_true]
      rfl
    · have hnone := outcomesIn_of_not_listed hlisted
      unfold outcomesIn at hnone
      rw [hnone]
      simp [hlisted]

/-- A pick reads the served list at the cursor, and moves the cursor if there is something to
read. -/
theorem health_pick_eq (pool : HealthAwarePool) (inner : List String) :
    pool.pick inner =
      ((pool.allHealthy inner)[pool.cursor.toNat % (pool.allHealthy inner).length]?,
        if pool.allHealthy inner = [] then pool else { pool with cursor := pool.cursor + 1 }) := by
  unfold HealthAwarePool.pick HealthAwarePool.allHealthy
  cases pool.healthySnapshot inner with
  | nil => rfl
  | cons addr rest => rfl

/-- A pick leaves the health view alone. -/
theorem pick_status (pool : HealthAwarePool) (inner : List String) (addr : String) :
    statusOf (pool.pick inner).2 addr = statusOf pool addr := by
  rw [health_pick_eq]
  split <;> rfl

/-- The pool after one more call. -/
theorem healthAfter_snoc (calls : List PoolCall) (call : PoolCall) :
    HealthAwarePool.after cfg (calls ++ [call]) =
      (HealthAwarePool.after cfg calls).call cfg call :=
  List.foldl_append

/-- Along every history without hints, the status of a backend accounts for its outcomes. -/
theorem accounts_after (addr : String) (calls : List PoolCall)
    (hhints : ∀ hinted, PoolCall.markUnhealthy hinted ∉ calls) :
    Accounts cfg (statusOf (HealthAwarePool.after cfg calls) addr)
      (recentOutcomes addr (probeRounds calls)) := by
  induction calls using List.reverseRecOn with
  | nil => exact accounts_fresh cfg
  | append_singleton calls call ih =>
    have hold := ih fun hinted hmem => hhints hinted (List.mem_append_left _ hmem)
    rw [healthAfter_snoc]
    unfold probeRounds at hold ⊢
    rw [List.filterMap_append]
    cases call with
    | probeAll round =>
      show Accounts cfg (statusOf (HealthAwarePool.probeAll cfg round _) addr)
        (recentOutcomes addr (_ ++ [round]))
      -- A round that does not list the backend forgets it.
      rw [probeAll_status, recentOutcomes_snoc]
      split
      · exact accounts_applyProbes hold _
      · exact accounts_fresh cfg
    | pick inner =>
      show Accounts cfg (statusOf (HealthAwarePool.pick _ inner).2 addr)
        (recentOutcomes addr (_ ++ []))
      -- A pick leaves every status alone.
      rw [pick_status, List.append_nil]
      exact hold
    | markUnhealthy hinted =>
      exact absurd (List.mem_append_right _ List.mem_cons_self) (hhints hinted)

end

/-! ### The served list -/

/-- The served list has the backends whose status is not unhealthy. -/
theorem healthySnapshot_eq (pool : HealthAwarePool) (inner : List String) :
    pool.healthySnapshot inner =
      inner.filter fun addr => (statusOf pool addr).state != .unhealthy := by
  unfold HealthAwarePool.healthySnapshot statusOf
  refine List.filter_congr ?_
  intro addr _
  cases pool.statuses addr with
  | none => rfl
  | some status => rfl

/-- A pick fails if and only if there is nothing to serve. -/
theorem pick_eq_none_iff (pool : HealthAwarePool) (inner : List String) :
    (pool.pick inner).1 = none ↔ pool.allHealthy inner = [] := by
  rw [health_pick_eq, List.getElem?_eq_none_iff]
  constructor
  · intro hle
    -- The index is inside the list, unless the list is empty.
    by_contra hne
    have hlt := Nat.mod_lt pool.cursor.toNat (List.length_pos_of_ne_nil hne)
    omega
  · intro hnil
    simp [hnil]

/-- What is picked is served. -/
theorem mem_of_pick {pool : HealthAwarePool} {inner : List String} {addr : String}
    (h : (pool.pick inner).1 = some addr) : addr ∈ pool.allHealthy inner := by
  rw [health_pick_eq] at h
  exact List.mem_of_getElem? h

/-- **The health view.** After every history of probe rounds and picks without hints, the served
list is the inner pool's list without the evicted backends, a pick fails exactly if it is empty,
and otherwise returns one of its members. -/
theorem healthView (cfg : HealthCheckConfig) (calls : List PoolCall)
    (hhints : ∀ hinted, PoolCall.markUnhealthy hinted ∉ calls) (inner : List String) :
    let pool := HealthAwarePool.after cfg calls
    pool.allHealthy inner = inner.filter (fun addr => ¬ Evicted cfg (probeRounds calls) addr) ∧
      ((pool.pick inner).1 = none ↔ pool.allHealthy inner = []) ∧
      ∀ addr, (pool.pick inner).1 = some addr → addr ∈ pool.allHealthy inner := by
  intro pool
  refine ⟨?_, pick_eq_none_iff pool inner, fun addr => mem_of_pick⟩
  unfold HealthAwarePool.allHealthy
  rw [healthySnapshot_eq]
  refine List.filter_congr ?_
  intro addr _
  have hstate := (accounts_after cfg addr calls hhints).state
  unfold Evicted
  rw [Bool.eq_iff_iff, bne_iff_ne, decide_eq_true_iff]
  exact not_congr hstate

/-- A round in which `be-a:15002` does not connect and `be-b:15002` has no health service. -/
def failingRound : ProbeRound :=
  [("be-a:15002", some .connectFailed), ("be-b:15002", some (.failed .unimplemented))]

/-- After three such rounds `be-a:15002` is evicted. The others are served, one of which no round
has listed. -/
theorem healthView_failingRounds :
    let calls : List PoolCall :=
      [.probeAll failingRound, .probeAll failingRound, .pick ["be-a:15002"], .probeAll failingRound]
    (HealthAwarePool.after {} calls).allHealthy ["be-a:15002", "be-b:15002", "be-c:15002"]
        = ["be-b:15002", "be-c:15002"] ∧
      Evicted {} (probeRounds calls) "be-a:15002" ∧
      ¬ Evicted {} (probeRounds calls) "be-b:15002" := by
  intro calls
  have hhints : ∀ hinted, PoolCall.markUnhealthy hinted ∉ calls := by
    intro hinted
    simp [calls]
  have hserved : (HealthAwarePool.after {} calls).allHealthy
      ["be-a:15002", "be-b:15002", "be-c:15002"] = ["be-b:15002", "be-c:15002"] := by
    decide +kernel
  -- What is served is what was not evicted.
  have hview := (healthView {} calls hhints ["be-a:15002", "be-b:15002", "be-c:15002"]).1
  rw [hserved] at hview
  refine ⟨hserved, ?_, ?_⟩
  · by_contra hnot
    have hmem : "be-a:15002" ∈ ["be-b:15002", "be-c:15002"] := by
      rw [hview]
      exact List.mem_filter.mpr ⟨by decide, decide_eq_true hnot⟩
    exact absurd hmem (by decide)
  · have hmem : "be-b:15002" ∈ ["be-b:15002", "be-c:15002"] := List.mem_cons_self
    rw [hview] at hmem
    exact of_decide_eq_true (List.mem_filter.mp hmem).2

end SparkGateway.Proofs.Pool
