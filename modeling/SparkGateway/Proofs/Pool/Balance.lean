import SparkGateway.Lib.Rotation
import SparkGateway.Proofs.Pool.HealthView
import SparkGateway.Spec.K8sPool
import SparkGateway.Spec.StaticPool

/-!
# `SparkGateway.Proofs.Pool.Balance`: balanced picks across membership changes

The three pools pick in turn, each with a cursor of its own that is never reset. The list that a
pool serves can change at any time: `set_backends` replaces the list of a `K8sPool`, and the list
of a `HealthAwarePool` changes with that of its inner pool and with every round of probes. So the
cursor may stand anywhere when a list comes into service.

`staticStep`, `k8sStep` and `healthStep` run one call of a pool and show the pick as a `Turn`: the
list that the pool serves at the time, the position that the pick reads, and what it returns. Each
of them `Rotates`, and `pools_balanced` follows from the rules of `Lib/Rotation.lean`.
-/

set_option autoImplicit false

namespace SparkGateway.Proofs.Pool

open SparkGateway.Lib
open SparkGateway.Spec

/-! ### The pools call by call -/

/-- The pick of a pool with the cursor `idx`: nothing is read from an empty list. -/
def turnAt (served : List String) (idx : UInt64) (returned : Option String) : Turn String :=
  ⟨served, if served = [] then none else some (idx.toNat % served.length), returned⟩

/-- A call of a static pool, with the turn it takes if it is a pick. -/
def staticStep : StaticPoolCall → StaticPool → Option (Turn String) × StaticPool
  | .pick, pool => (some (turnAt pool.allHealthy pool.cursor pool.pick.1), pool.pick.2)
  | .markUnhealthy addr, pool => (none, pool.markUnhealthy addr)

/-- A call of a Kubernetes pool, with the turn it takes if it is a pick. -/
def k8sStep : K8sPoolCall → K8sPool → Option (Turn String) × K8sPool
  | .setBackends addrs, pool => (none, pool.setBackends addrs)
  | .setSizeObserver, pool => (none, pool.setSizeObserver)
  | .pick, pool => (some (turnAt pool.allHealthy pool.cursor pool.pick.1), pool.pick.2)
  | .markUnhealthy addr, pool => (none, pool.markUnhealthy addr)

/-- A pick has the list of the inner pool at the time, so a `set_backends` of the inner pool shows
in the picks after it. -/
def healthStep (cfg : HealthCheckConfig) :
    PoolCall → HealthAwarePool → Option (Turn String) × HealthAwarePool
  | .pick inner, pool =>
      (some (turnAt (pool.allHealthy inner) pool.cursor (pool.pick inner).1),
        pool.call cfg (.pick inner))
  | call, pool => (none, pool.call cfg call)

/-- Every pick reads inside the list served at the time and returns what is there. In every
history of fewer than `2 ^ 64` picks, a block of picks from one list that is not empty is
balanced. -/
def PicksBalanced {γ σ : Type} (step : γ → σ → Option (Turn String) × σ) (start : σ) : Prop :=
  (∀ calls, ∀ t ∈ turns step calls start, t.Sound) ∧
    ∀ before block, (turns step (before ++ block) start).length < 2 ^ 64 →
      ∀ served ≠ [], (∀ t ∈ turns step block (final step before start), t.served = served) →
        Balanced served (turns step block (final step before start))

/-! ### The pools pick in turn -/

/-- What a call can do: it is no pick and leaves the cursor alone, or it is a pick that reads the
list at the cursor and moves it on, unless there is nothing to read. -/
def InTurn {σ : Type} (cursor : σ → UInt64) (s : σ) (after : Option (Turn String) × σ) : Prop :=
  (after.1 = none ∧ cursor after.2 = cursor s) ∨
    ∃ served : List String,
      after.1 = some (turnAt served (cursor s) served[(cursor s).toNat % served.length]?) ∧
      cursor after.2 = if served = [] then cursor s else cursor s + 1

/-- A turn that returns what is at the cursor is sound. -/
theorem turnAt_sound (served : List String) (idx : UInt64) :
    (turnAt served idx served[idx.toNat % served.length]?).Sound := by
  by_cases hne : served = []
  · subst hne
    exact ⟨by simp [turnAt], by simp [turnAt], by simp [turnAt]⟩
  · have hlt : idx.toNat % served.length < served.length :=
      Nat.mod_lt _ (List.length_pos_of_ne_nil hne)
    exact ⟨by simpa [turnAt, hne] using hlt, by simp [turnAt, hne], by simp [turnAt, hne]⟩

/-- The cursor of a pool counts its picks modulo `2 ^ 64`. -/
theorem rotates_of_inTurn {γ σ : Type} {cursor : σ → UInt64}
    {step : γ → σ → Option (Turn String) × σ} (h : ∀ c s, InTurn cursor s (step c s)) :
    Rotates (2 ^ 64) (fun s => (cursor s).toNat) step := by
  -- A turn of the step is that of the second case.
  have hturn : ∀ c s, ∀ t ∈ (step c s).1,
      t = turnAt t.served (cursor s) t.served[(cursor s).toNat % t.served.length]? ∧
        cursor (step c s).2 = if t.served = [] then cursor s else cursor s + 1 := by
    intro c s t ht
    rcases h c s with ⟨hnone, -⟩ | ⟨served, hpick, hcursor⟩
    · rw [hnone] at ht
      cases ht
    · rw [hpick] at ht
      cases ht
      exact ⟨rfl, hcursor⟩
  constructor
  · intro c s t ht
    rw [(hturn c s t ht).1]
    exact turnAt_sound _ _
  · intro c s t ht hne
    rw [(hturn c s t ht).1]
    simp [turnAt, hne]
  · intro c s t ht hne
    show (cursor (step c s).2).toNat = ((cursor s).toNat + 1) % 2 ^ 64
    rw [(hturn c s t ht).2, if_neg hne, UInt64.toNat_add]
    rfl
  · intro c s hempty
    show (cursor (step c s).2).toNat = (cursor s).toNat
    rcases h c s with ⟨-, hcursor⟩ | ⟨served, hpick, hcursor⟩
    · rw [hcursor]
    · have hnil : served = [] := hempty _ hpick
      rw [hcursor, if_pos hnil]

/-- A static pool picks in turn. -/
theorem static_inTurn (c : StaticPoolCall) (pool : StaticPool) :
    InTurn StaticPool.cursor pool (staticStep c pool) := by
  cases c with
  | markUnhealthy addr => exact .inl ⟨rfl, rfl⟩
  | pick =>
    refine .inr ⟨pool.backends, rfl, ?_⟩
    rw [if_neg pool.nonempty]
    rfl

/-- A pick reads the list at the cursor, and moves the cursor if there is something to read. -/
theorem k8s_pick_eq (pool : K8sPool) :
    pool.pick = (pool.allHealthy[pool.cursor.toNat % pool.allHealthy.length]?,
      if pool.allHealthy = [] then pool else { pool with cursor := pool.cursor + 1 }) := by
  unfold K8sPool.pick K8sPool.allHealthy
  cases hb : pool.backends with
  | nil => rfl
  | cons b bs => rfl

/-- A Kubernetes pool picks in turn. -/
theorem k8s_inTurn (c : K8sPoolCall) (pool : K8sPool) :
    InTurn K8sPool.cursor pool (k8sStep c pool) := by
  cases c with
  | setBackends addrs =>
    refine .inl ⟨rfl, ?_⟩
    show (pool.setBackends addrs).cursor = pool.cursor
    unfold K8sPool.setBackends
    split <;> rfl
  | setSizeObserver => exact .inl ⟨rfl, rfl⟩
  | markUnhealthy addr => exact .inl ⟨rfl, rfl⟩
  | pick =>
    refine .inr ⟨pool.allHealthy, ?_, ?_⟩
    · show some (turnAt pool.allHealthy pool.cursor pool.pick.1) = _
      rw [k8s_pick_eq]
    · show pool.pick.2.cursor = _
      rw [k8s_pick_eq]
      exact apply_ite K8sPool.cursor _ _ _

/-- A health-aware pool picks in turn. -/
theorem health_inTurn (cfg : HealthCheckConfig) (c : PoolCall) (pool : HealthAwarePool) :
    InTurn HealthAwarePool.cursor pool (healthStep cfg c pool) := by
  cases c with
  | probeAll round =>
    refine .inl ⟨rfl, ?_⟩
    show (pool.probeAll cfg round).cursor = pool.cursor
    unfold HealthAwarePool.probeAll
    split <;> rfl
  | markUnhealthy addr =>
    refine .inl ⟨rfl, ?_⟩
    show (pool.markUnhealthy addr).cursor = pool.cursor
    unfold HealthAwarePool.markUnhealthy
    split
    · split <;> rfl
    · rfl
  | pick inner =>
    -- The list that is read is the one that is served at the time.
    refine .inr ⟨pool.allHealthy inner, ?_, ?_⟩
    · show some (turnAt (pool.allHealthy inner) pool.cursor (pool.pick inner).1) = _
      rw [health_pick_eq]
    · show (pool.pick inner).2.cursor = _
      rw [health_pick_eq]
      exact apply_ite HealthAwarePool.cursor _ _ _

/-! ### Balance -/

/-- A pool whose calls are all in turn is balanced. -/
theorem picksBalanced_of_inTurn {γ σ : Type} {cursor : σ → UInt64}
    {step : γ → σ → Option (Turn String) × σ} (h : ∀ c s, InTurn cursor s (step c s)) {start : σ}
    (hstart : cursor start = 0) : PicksBalanced step start := by
  have hrotates := rotates_of_inTurn h
  have hzero : (cursor start).toNat = 0 := by rw [hstart]; rfl
  refine ⟨fun calls => hrotates.turns_sound calls start, ?_⟩
  intro before block hpicks served hne hserved
  exact hrotates.balanced hzero before block hpicks hne hserved

/-- **Balanced round-robin.** In every history of each of the three pools, every pick reads inside
the list served at the time, and a block of picks from one list reads each of its positions
equally often, up to one time, wherever the cursor stood when the block began. -/
theorem pools_balanced :
    (∀ addresses pool, StaticPool.new addresses = .ok pool → PicksBalanced staticStep pool) ∧
      PicksBalanced k8sStep K8sPool.new ∧
      ∀ cfg, PicksBalanced (healthStep cfg) HealthAwarePool.new := by
  refine ⟨?_, ?_, ?_⟩
  · intro addresses pool hnew
    refine picksBalanced_of_inTurn static_inTurn ?_
    unfold StaticPool.new at hnew
    split at hnew
    · cases hnew
    · cases hnew
      rfl
  · exact picksBalanced_of_inTurn k8s_inTurn rfl
  · intro cfg
    exact picksBalanced_of_inTurn (health_inTurn cfg) rfl

/-- The list changes while the cursor stands at one, and four picks from three backends follow:
one of them is picked twice. -/
theorem pools_balanced_membershipChange :
    let pool := final k8sStep [.setBackends ["a", "b"], .pick, .setBackends ["x", "y", "z"]]
      K8sPool.new
    let picks := turns k8sStep [.pick, .pick, .pick, .pick] pool
    picks.map Turn.returned = [some "y", some "z", some "x", some "y"] ∧
      Balanced ["x", "y", "z"] picks :=
  ⟨by decide +kernel, pools_balanced.2.1.2 _ _ (by decide +kernel) _ (by decide +kernel)
    (by decide +kernel)⟩

end SparkGateway.Proofs.Pool
