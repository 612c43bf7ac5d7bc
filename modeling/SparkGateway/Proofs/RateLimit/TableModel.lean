import Mathlib.Data.List.Induction
import SparkGateway.Lib.BucketTable
import SparkGateway.Lib.Transcript
import SparkGateway.Spec.RateLimit

/-!
# `SparkGateway.Proofs.RateLimit.TableModel`: limiters as tables of buckets

`Limiter` is the view of a rate limiter that the results about its calls need: `check` at a
time, and the balances of the two buckets of a caller, refilled to a time.

`RejectionsFree L` is about calls that are rejected. In every state that calls can reach, a
rejected call leaves both balances as they were exactly when it found the tenant bucket
empty. In a whole run, the rejected calls of one user can be deleted without changing
another decision, as long as each of them found the tenant bucket empty.

`TableModel L` says that the states of a limiter stand for tables of buckets
(`Lib/BucketTable.lean`) and that `check` charges the enabled buckets of the call, the
tenant's first. `TableModel.rejectionsFree` proves `RejectionsFree` from it, by a simulation
(`Follows`) between a run and the same run with calls deleted. `MemoryTable.lean` and
`RedisTable.lean` have the models of the two limiters.
-/

set_option autoImplicit false

namespace SparkGateway.Proofs.RateLimit

open SparkGateway.Lib
open SparkGateway.Lib.TokenBucket
open SparkGateway.Spec

/-- One call of `check`: when, and for whom. -/
structure Call where
  now : ℚ
  tenant : String
  user : String
deriving DecidableEq

/-- A limiter as its callers see it: the state it starts with, `check`, and the tokens of a
tenant's and of a user's bucket, refilled to a time. -/
structure Limiter (σ : Type) where
  limits : LimiterConfig
  fresh : σ
  check : Call → σ → Verdict × σ
  tenantBalance : ℚ → String → σ → ℚ
  userBalance : ℚ → String → String → σ → ℚ

section
variable {σ : Type}

/-- Both buckets are enabled for the tenant. -/
def BothEnabled (cfg : LimiterConfig) (tenant : String) : Prop :=
  (cfg.limitsFor tenant).tenant.isEnabled = true ∧
    (cfg.limitsFor tenant).perUser.isEnabled = true

/-- The call leaves both balances, refilled to its time, as it found them. -/
def CostsNothing (L : Limiter σ) (c : Call) (s : σ) : Prop :=
  L.tenantBalance c.now c.tenant (L.check c s).2 = L.tenantBalance c.now c.tenant s ∧
    L.userBalance c.now c.tenant c.user (L.check c s).2
      = L.userBalance c.now c.tenant c.user s

/-- Along the run, each rejected call of the user finds the tenant bucket empty. -/
def FoundEmpty (L : Limiter σ) (tenant user : String) : List Call → σ → Prop
  | [], _ => True
  | c :: cs, s =>
      (c.tenant = tenant → c.user = user → (L.check c s).1 ≠ .admitted →
        L.tenantBalance c.now c.tenant s < 1) ∧
      FoundEmpty L tenant user cs (L.check c s).2

/-- A rejected call of the user. -/
def rejectedOf (tenant user : String) (c : Call) (v : Verdict) : Bool :=
  decide (c.tenant = tenant ∧ c.user = user ∧ v ≠ .admitted)

/-- The run with the rejected calls of one user deleted: the calls that stay, with their
decisions in the whole run. -/
def remaining (L : Limiter σ) (tenant user : String) (calls : List Call) :
    List (Call × Verdict) :=
  (transcript L.check calls L.fresh).filter fun e => !rejectedOf tenant user e.1 e.2

/-- When a rejected call costs nothing, in every state that calls can reach, and what
follows for whole runs with the calls in order of time. -/
structure RejectionsFree (L : Limiter σ) : Prop where
  costsNothing_iff : ∀ (calls : List Call) (c : Call), BothEnabled L.limits c.tenant →
    (L.check c (final L.check calls L.fresh)).1 ≠ .admitted →
    (CostsNothing L c (final L.check calls L.fresh) ↔
      L.tenantBalance c.now c.tenant (final L.check calls L.fresh) < 1)
  decisions_eq : ∀ (calls : List Call) (tenant user : String),
    calls.Pairwise (·.now ≤ ·.now) → BothEnabled L.limits tenant →
    FoundEmpty L tenant user calls L.fresh →
    transcript L.check ((remaining L tenant user calls).map Prod.fst) L.fresh
      = remaining L tenant user calls

/-! ### Limiters as tables of buckets -/

/-- The verdict for the bucket that rejected, if one did. -/
def verdictOf : Option RejectScope → Verdict
  | none => .admitted
  | some scope => .rejected scope

/-- A call is admitted exactly when no bucket refuses it. -/
theorem verdictOf_eq_admitted {o : Option RejectScope} : verdictOf o = .admitted ↔ o = none := by
  cases o <;> simp [verdictOf]

/-- What a call asks for: a token of each enabled bucket, the tenant's first. Each of the two takes
reads the clock by itself. -/
def clockAsks {κ : Type} (cfg : LimiterConfig) (tenantSlot : String → Slot κ ℚ)
    (userSlot : String → String → Slot κ ℚ) (now : Clock) (t u : String) :
    List (Ask RejectScope κ ℚ) :=
  (if (cfg.limitsFor t).tenant.isEnabled then [⟨.tenant, tenantSlot t, now.tenantTake⟩] else []) ++
  (if (cfg.limitsFor t).perUser.isEnabled then [⟨.user, userSlot t u, now.userTake⟩] else [])

/-- What a call asks for when both takes read the same time. -/
def asksOf {κ : Type} (cfg : LimiterConfig) (tenantSlot : String → Slot κ ℚ)
    (userSlot : String → String → Slot κ ℚ) (c : Call) : List (Ask RejectScope κ ℚ) :=
  clockAsks cfg tenantSlot userSlot ⟨c.now, c.now⟩ c.tenant c.user

/-- A limiter whose states stand for tables of buckets, and whose `check` charges the
enabled buckets of the call. Two tenants never share a tenant bucket, and no user bucket is
a tenant bucket. -/
structure TableModel (L : Limiter σ) (κ : Type) [DecidableEq κ] where
  abs : σ → Table κ ℚ
  Inv : σ → Prop
  tenantSlot : String → Slot κ ℚ
  userSlot : String → String → Slot κ ℚ
  inv_fresh : Inv L.fresh
  abs_fresh : ∀ k, abs L.fresh k = none
  inv_check : ∀ c s, Inv s → Inv (L.check c s).2
  check_fst : ∀ c s, Inv s →
    (L.check c s).1 = verdictOf (charge (asksOf L.limits tenantSlot userSlot c) (abs s)).1
  check_snd : ∀ c s, Inv s →
    abs (L.check c s).2 = (charge (asksOf L.limits tenantSlot userSlot c) (abs s)).2
  tenantBalance_eq : ∀ now t s, Inv s → (L.limits.limitsFor t).tenant.isEnabled = true →
    L.tenantBalance now t s = balance now (tenantSlot t) (abs s)
  userBalance_eq : ∀ now t u s, Inv s →
    L.userBalance now t u s = balance now (userSlot t u) (abs s)
  rate_nonneg : ∀ t, (L.limits.limitsFor t).tenant.isEnabled = true → 0 ≤ (tenantSlot t).rate
  tenantSlot_inj : ∀ t t', (tenantSlot t).key = (tenantSlot t').key → t = t'
  tenantSlot_ne_userSlot : ∀ t t' u, (tenantSlot t).key ≠ (userSlot t' u).key

namespace TableModel

variable {κ : Type} [DecidableEq κ] {L : Limiter σ}

/-- All buckets of the limiter. -/
def slots (M : TableModel L κ) : Set (Slot κ ℚ) :=
  {d | (∃ t, d = M.tenantSlot t) ∨ ∃ t u, d = M.userSlot t u}

/-- The invariant holds after every run from the fresh state. -/
theorem inv_final (M : TableModel L κ) (calls : List Call) :
    M.Inv (final L.check calls L.fresh) := by
  induction calls using List.reverseRecOn with
  | nil => exact M.inv_fresh
  | append_singleton calls c ih =>
    rw [final_append]
    exact M.inv_check c _ ih

/-- A call asks for slots of the model, at its own time. -/
theorem asksOf_mem (M : TableModel L κ) {c : Call} {a : Ask RejectScope κ ℚ}
    (ha : a ∈ asksOf L.limits M.tenantSlot M.userSlot c) : a.slot ∈ M.slots ∧ a.now = c.now := by
  unfold asksOf clockAsks at ha
  rcases List.mem_append.mp ha with ha | ha <;> split at ha
  · obtain rfl := List.mem_singleton.mp ha
    exact ⟨Or.inl ⟨c.tenant, rfl⟩, rfl⟩
  · simp at ha
  · obtain rfl := List.mem_singleton.mp ha
    exact ⟨Or.inr ⟨c.tenant, c.user, rfl⟩, rfl⟩
  · simp at ha

/-- With the tenant bucket enabled, it is asked first. -/
theorem asksOf_eq_cons (M : TableModel L κ) {c : Call}
    (h : (L.limits.limitsFor c.tenant).tenant.isEnabled = true) :
    ∃ as, asksOf L.limits M.tenantSlot M.userSlot c
      = ⟨.tenant, M.tenantSlot c.tenant, c.now⟩ :: as := by
  exact ⟨_, by rw [asksOf, clockAsks, if_pos h]; rfl⟩

/-- If both buckets are in force, the tenant's is asked first and then the user's. -/
theorem asksOf_both (M : TableModel L κ) {c : Call} (h : BothEnabled L.limits c.tenant) :
    asksOf L.limits M.tenantSlot M.userSlot c
      = [⟨.tenant, M.tenantSlot c.tenant, c.now⟩, ⟨.user, M.userSlot c.tenant c.user, c.now⟩] := by
  rw [asksOf, clockAsks, if_pos h.1, if_pos h.2]
  rfl

/-- The simulation between a run and the same run without some calls: the calls still to
come are in order of time, and the two tables agree from some time before them. -/
structure Follows (M : TableModel L κ) (tenant user : String) (calls : List Call) (s s' : σ) :
    Prop where
  inv : M.Inv s
  inv' : M.Inv s'
  foundEmpty : FoundEmpty L tenant user calls s
  inOrder : calls.Pairwise (·.now ≤ ·.now)
  agree : ∃ now, (∀ c ∈ calls, now ≤ c.now) ∧ Fresh now (M.abs s) ∧
    Agree M.slots now (M.abs s) (M.abs s')

variable {M : TableModel L κ} {tenant user : String} {c : Call} {calls : List Call} {s s' : σ}

/-- At the next call the tables agree, and its buckets were refilled before. -/
theorem Follows.at_call (h : Follows M tenant user (c :: calls) s s') :
    Fresh c.now (M.abs s) ∧ Agree M.slots c.now (M.abs s) (M.abs s') := by
  obtain ⟨now, hle, hfresh, hagree⟩ := h.agree
  have hc : now ≤ c.now := hle c List.mem_cons_self
  exact ⟨hfresh.mono hc, hagree.mono hc⟩

/-- A call made on both sides gets the same answer, and the simulation goes on. -/
theorem Follows.keep (h : Follows M tenant user (c :: calls) s s') :
    (L.check c s').1 = (L.check c s).1 ∧
      Follows M tenant user calls (L.check c s).2 (L.check c s').2 := by
  obtain ⟨hfresh, hagree⟩ := h.at_call
  obtain ⟨hfst, hsnd⟩ := charge_agree (fun a ha => M.asksOf_mem ha) hagree
  refine ⟨?_, ?_⟩
  · rw [M.check_fst c s h.inv, M.check_fst c s' h.inv', hfst]
  · refine ⟨M.inv_check c s h.inv, M.inv_check c s' h.inv', h.foundEmpty.2,
      (List.pairwise_cons.mp h.inOrder).2, c.now, (List.pairwise_cons.mp h.inOrder).1, ?_, ?_⟩
    · rw [M.check_snd c s h.inv]
      exact fresh_charge (fun a ha => (M.asksOf_mem ha).2) hfresh
    · rw [M.check_snd c s h.inv, M.check_snd c s' h.inv']
      exact hsnd

/-- A call that finds the tenant bucket empty can be made on one side only. -/
theorem Follows.skip (h : Follows M tenant user (c :: calls) s s')
    (hon : (L.limits.limitsFor c.tenant).tenant.isEnabled = true)
    (hempty : L.tenantBalance c.now c.tenant s < 1) :
    Follows M tenant user calls (L.check c s).2 s' := by
  obtain ⟨hfresh, hagree⟩ := h.at_call
  obtain ⟨as, hasks⟩ := M.asksOf_eq_cons hon
  -- No other bucket has the key of this tenant's bucket.
  have hkey : ∀ d ∈ M.slots, d.key = (M.tenantSlot c.tenant).key → d = M.tenantSlot c.tenant := by
    rintro d (⟨t, rfl⟩ | ⟨t, u, rfl⟩) hd
    · rw [M.tenantSlot_inj t c.tenant hd]
    · exact absurd hd.symm (M.tenantSlot_ne_userSlot c.tenant t u)
  rw [M.tenantBalance_eq _ _ _ h.inv hon] at hempty
  refine ⟨M.inv_check c s h.inv, h.inv', h.foundEmpty.2, (List.pairwise_cons.mp h.inOrder).2,
    c.now, (List.pairwise_cons.mp h.inOrder).1, ?_, ?_⟩
  · rw [M.check_snd c s h.inv]
    exact fresh_charge (fun a ha => (M.asksOf_mem ha).2) hfresh
  · rw [M.check_snd c s h.inv, hasks]
    exact agree_charge_of_empty (a := ⟨RejectScope.tenant, M.tenantSlot c.tenant, c.now⟩) hfresh
      hagree (M.rate_nonneg _ hon) hkey hempty

/-- A run from the fresh state follows itself. -/
theorem follows_fresh (M : TableModel L κ) (h : FoundEmpty L tenant user calls L.fresh)
    (hord : calls.Pairwise (·.now ≤ ·.now)) :
    Follows M tenant user calls L.fresh L.fresh := by
  have hfresh : ∀ now, Fresh now (M.abs L.fresh) := by
    intro now k l hl
    rw [M.abs_fresh k] at hl
    cases hl
  refine ⟨M.inv_fresh, M.inv_fresh, h, hord, ?_⟩
  cases calls with
  | nil => exact ⟨0, by simp, hfresh 0, fun _ _ _ _ => rfl⟩
  | cons c calls =>
    refine ⟨c.now, fun c' hc' => ?_, hfresh c.now, fun _ _ _ _ => rfl⟩
    rcases List.mem_cons.mp hc' with rfl | hc'
    · exact le_refl _
    · exact (List.pairwise_cons.mp hord).1 c' hc'

/-- A limiter that is a table of buckets rejects for free exactly when the tenant bucket is
empty. -/
theorem rejectionsFree (M : TableModel L κ) : RejectionsFree L where
  costsNothing_iff calls c hboth hrej := by
    -- Only the invariant of the reached state matters from here on.
    have hinv := M.inv_final calls
    generalize final L.check calls L.fresh = s at hinv hrej ⊢
    rw [M.check_fst c s hinv, Ne, verdictOf_eq_admitted, M.asksOf_both hboth] at hrej
    rw [CostsNothing, M.tenantBalance_eq _ _ _ (M.inv_check c s hinv) hboth.1,
      M.tenantBalance_eq _ _ _ hinv hboth.1, M.userBalance_eq _ _ _ _ (M.inv_check c s hinv),
      M.userBalance_eq _ _ _ _ hinv, M.check_snd c s hinv, M.asksOf_both hboth]
    exact charge_pair_unchanged_iff (M.tenantSlot_ne_userSlot _ _ _) hrej
  decisions_eq calls tenant user hord hboth hempty := by
    refine purge_of_sim (Follows M tenant user) ?_ ?_ calls L.fresh L.fresh
      (M.follows_fresh hempty hord)
    · intro c cs s s' h _
      exact h.keep
    · -- A deleted call is one of the user's rejected calls, and it found the bucket empty.
      intro c cs s s' h hdrop
      obtain ⟨rfl, huser, hrej⟩ := of_decide_eq_true hdrop
      exact h.skip hboth.1 (h.foundEmpty.1 rfl huser hrej)

end TableModel

end

end SparkGateway.Proofs.RateLimit
