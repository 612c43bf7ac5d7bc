import SparkGateway.Lib.Restrict
import SparkGateway.Proofs.Handler.TableOwnership

/-!
# `SparkGateway.Proofs.Handler.TenantNoninterference`: tenants that do not notice each other

All tenants of a process share one affinity store, one rate limiter and the pools. `Cell` names
the parts of this shared state, and `processFootprint` says which of them a command touches: a
store access its session or operation, a pick its pool, a `check` the buckets of its tenant.

By the contract of the handlers a cell that a handler touches belongs to the tenant of its caller,
or to an operation that its RPC names (`touches_own`). So the cells of a set of tenants are apart
from those of the other tenants, if the tenants have pools apart and their RPCs name different
operations. The operation table is the reason for the last condition: it has no tenant in its keys.

`tenants_noninterfering` then deletes the RPCs of all other tenants from a run: the RPCs of these
tenants perform the same commands, get the same replies and return the same responses, in the
same order.
-/

set_option autoImplicit false

namespace SparkGateway.Proofs.Handler

open SparkGateway.Lib
open SparkGateway.Spec

/-! ### The cells of the shared state -/

/-- A part of the shared state. -/
inductive Cell where
  | session (key : SessionKey)
  | op (opId : String)
  | pool (pool : PoolId)
  | tenant (tenant : String)

/-- The cells that a command touches. -/
def cellsOf : (GatewaySig MemorySig).Cmd → Set Cell
  | .inl (.inl (.pick pool)) => {.pool pool}
  | .inl (.inr (.lookupSession key)) => {.session key}
  | .inl (.inr (.bindSessionIfAbsent key _)) => {.session key}
  | .inl (.inr (.forgetSession key)) => {.session key}
  | .inl (.inr (.lookupOp opId)) => {.op opId}
  | .inl (.inr (.bindOp opId _)) => {.op opId}
  | .inl (.inr (.forgetOp opId)) => {.op opId}
  | .inr (.check tenant _) => {.tenant tenant}
  | .inr _ => ∅

section
variable {P : PoolId → PoolModel}

/-- The two states have the same in a cell. -/
def AgreeAt : Cell → ProcessState P → ProcessState P → Prop
  | .session key, s, u => s.store.sessions key = u.store.sessions key
  | .op opId, s, u => s.store.ops opId = u.store.ops opId
  | .pool pool, s, u => s.pools pool = u.pools pool
  | .tenant tenant, s, u => s.limiter tenant = u.limiter tenant

/-- The same value is put in the same place of two maps that agree somewhere. -/
theorem update_agree {κ : Type} [DecidableEq κ] {β : κ → Type} {f g : (k : κ) → β k} {k' : κ}
    (h : f k' = g k') (k : κ) (v : β k) : Function.update f k v k' = Function.update g k v k' := by
  by_cases hk : k' = k
  · subst hk
    rw [Function.update_self, Function.update_self]
  · rw [Function.update_of_ne hk, Function.update_of_ne hk]
    exact h

/-! ### The limiter -/

/-- A `check` decides by the buckets of its tenant, and does there what it does anywhere. -/
theorem check_local (limits : LimiterConfig) (now : Clock) (tenant user : String)
    {s u : MemoryLimiter.State} (h : s tenant = u tenant) :
    (MemoryLimiter.check limits now tenant user s).1
        = (MemoryLimiter.check limits now tenant user u).1 ∧
      ∀ other, s other = u other → (MemoryLimiter.check limits now tenant user s).2 other
        = (MemoryLimiter.check limits now tenant user u).2 other := by
  unfold MemoryLimiter.check
  simp only [h]
  split_ifs with hoff
  · exact ⟨rfl, fun other hother => hother⟩
  all_goals exact ⟨rfl, fun other hother => update_agree hother _ _⟩

/-- A `check` leaves the buckets of the other tenants alone. -/
theorem check_frame (limits : LimiterConfig) (now : Clock) (tenant user : String)
    (s : MemoryLimiter.State) {other : String} (h : other ≠ tenant) :
    (MemoryLimiter.check limits now tenant user s).2 other = s other := by
  unfold MemoryLimiter.check
  dsimp only
  split_ifs with hoff
  · rfl
  all_goals exact Function.update_of_ne h _ _

/-! ### The store -/

/-- An access answers by its cell, and does there what it does anywhere. -/
theorem access_local (c : MemoryCmd) {s u : ProcessState P}
    (h : ∀ k ∈ cellsOf (.inl (.inr c)), AgreeAt k s u) :
    (s.access c).1 = (u.access c).1 ∧
      ∀ k, AgreeAt k s u → AgreeAt k (s.access c).2 (u.access c).2 := by
  cases c with
  | lookupSession key => exact ⟨h (.session key) rfl, fun k hk => by cases k <;> exact hk⟩
  | lookupOp opId => exact ⟨h (.op opId) rfl, fun k hk => by cases k <;> exact hk⟩
  | bindSessionIfAbsent key backend =>
    -- Both states have the same entry for the key, so both bind or neither does.
    have hkey : s.store.sessions key = u.store.sessions key := h (.session key) rfl
    cases hbound : u.store.sessions key with
    | some existing =>
      have hs := MemoryStore.apply_bind_of_some (hkey.trans hbound) backend
      have hu := MemoryStore.apply_bind_of_some hbound backend
      simp only [ProcessState.access, hs, hu]
      exact ⟨trivial, fun k hk => by cases k <;> exact hk⟩
    | none =>
      have hs := MemoryStore.apply_bind_of_none (hkey.trans hbound) backend
      have hu := MemoryStore.apply_bind_of_none hbound backend
      simp only [ProcessState.access, hs, hu]
      refine ⟨trivial, fun k hk => ?_⟩
      cases k with
      | session key' => exact update_agree hk key (some backend)
      | _ => exact hk
  | forgetSession key =>
    refine ⟨rfl, fun k hk => ?_⟩
    cases k with
    | session key' => exact update_agree hk key none
    | _ => exact hk
  | bindOp opId backend =>
    refine ⟨rfl, fun k hk => ?_⟩
    cases k with
    | op opId' => exact update_agree hk opId (some backend)
    | _ => exact hk
  | forgetOp opId =>
    refine ⟨rfl, fun k hk => ?_⟩
    cases k with
    | op opId' => exact update_agree hk opId none
    | _ => exact hk

/-- An access leaves the other cells alone. -/
theorem access_frame (c : MemoryCmd) (s : ProcessState P) {k : Cell}
    (hk : k ∉ cellsOf (.inl (.inr c))) : AgreeAt k (s.access c).2 s := by
  -- An access writes the cell of its own key or operation at most.
  have hne : ∀ {k' : Cell}, k' ∈ cellsOf (.inl (.inr c)) → k ≠ k' := fun hk' heq => hk (heq ▸ hk')
  cases c with
  | lookupSession key => cases k <;> rfl
  | lookupOp opId => cases k <;> rfl
  | bindSessionIfAbsent key backend =>
    cases hbound : s.store.sessions key with
    | some existing =>
      have hs := MemoryStore.apply_bind_of_some hbound backend
      simp only [ProcessState.access, hs]
      cases k <;> rfl
    | none =>
      have hs := MemoryStore.apply_bind_of_none hbound backend
      simp only [ProcessState.access, hs]
      cases k with
      | session key' =>
        exact Function.update_of_ne (fun heq => hne rfl (congrArg Cell.session heq)) _ _
      | _ => rfl
  | forgetSession key =>
    cases k with
    | session key' =>
      exact Function.update_of_ne (fun heq => hne rfl (congrArg Cell.session heq)) _ _
    | _ => rfl
  | bindOp opId backend =>
    cases k with
    | op opId' => exact Function.update_of_ne (fun heq => hne rfl (congrArg Cell.op heq)) _ _
    | _ => rfl
  | forgetOp opId =>
    cases k with
    | op opId' => exact Function.update_of_ne (fun heq => hne rfl (congrArg Cell.op heq)) _ _
    | _ => rfl

/-- Agreement at a cell is transitive. -/
theorem AgreeAt.trans {k : Cell} {s u v : ProcessState P} (h : AgreeAt k s u)
    (h' : AgreeAt k u v) : AgreeAt k s v := by
  cases k <;> exact Eq.trans h h'

/-! ### The footprint of the process -/

/-- The process by its cells. The clock is in none of them: a run without some handlers may be
behind in time. -/
def processFootprint (P : PoolId → PoolModel) (limits : LimiterConfig) :
    Footprint (processSemantics P limits) Cell where
  cells := cellsOf
  Agree := AgreeAt
  Behind s u := u.clock ≤ s.clock
  follow := by
    rintro ((c | c) | c) s r s' u hcmd hbehind hagree
    · obtain ⟨pool⟩ := c
      have hpool : s.pools pool = u.pools pool := hagree (.pool pool) rfl
      cases hcmd
      refine ⟨(u.pick pool).2, ?_, hbehind, fun k hk => ?_⟩
      · show u.pick pool = (((P pool).pick (s.pools pool)).1, (u.pick pool).2)
        rw [hpool]
        rfl
      · cases k with
        | pool pool' =>
          show Function.update s.pools pool _ pool' = Function.update u.pools pool _ pool'
          rw [hpool]
          exact update_agree hk pool _
        | _ => exact hk
    · obtain ⟨hreply, hcells⟩ := access_local c hagree
      have hr : (s.access c).1 = r := congrArg Prod.fst hcmd
      have hs' : (s.access c).2 = s' := congrArg Prod.snd hcmd
      refine ⟨(u.access c).2, Prod.ext (hreply.symm.trans hr) rfl, ?_, hs' ▸ hcells⟩
      rw [← hs']
      exact hbehind
    · cases c with
      | check tenant user =>
        obtain ⟨now, hfirst, hsecond, hcheck⟩ := hcmd
        obtain ⟨hverdict, hbuckets⟩ := check_local limits now tenant user
          (hagree (.tenant tenant) rfl : s.limiter tenant = u.limiter tenant)
        cases hcheck
        refine ⟨(u.check limits now tenant user).2, ⟨now, hbehind.trans hfirst, hsecond, ?_⟩,
          le_refl now.userTake, fun k hk => ?_⟩
        · exact Prod.ext hverdict.symm rfl
        · cases k with
          | tenant other => exact hbuckets other hk
          | _ => exact hk
      | _ =>
        obtain rfl : s' = s := hcmd
        exact ⟨u, rfl, hbehind, fun _ hk => hk⟩
  frame := by
    rintro ((c | c) | c) s r s' u hcmd hbehind
    · obtain ⟨pool⟩ := c
      cases hcmd
      refine ⟨hbehind, fun k hk hagree => AgreeAt.trans ?_ hagree⟩
      cases k with
      | pool pool' =>
        exact Function.update_of_ne (fun heq => hk (congrArg Cell.pool heq)) _ _
      | _ => rfl
    · have hs' : (s.access c).2 = s' := congrArg Prod.snd hcmd
      subst hs'
      exact ⟨hbehind, fun k hk hagree => (access_frame c s hk).trans hagree⟩
    · cases c with
      | check tenant user =>
        obtain ⟨now, hfirst, hsecond, hcheck⟩ := hcmd
        cases hcheck
        refine ⟨hbehind.trans (hfirst.trans hsecond), fun k hk hagree => AgreeAt.trans ?_ hagree⟩
        cases k with
        | tenant other =>
          exact check_frame limits now tenant user s.limiter
            fun heq => hk (congrArg Cell.tenant heq)
        | _ => rfl
      | _ =>
        obtain rfl : s' = s := hcmd
        exact ⟨hbehind, fun _ _ hagree => hagree⟩
  followEnv := by
    rintro s s' u ⟨pool, q, hmove, rfl⟩ hbehind
    by_cases hpool : s.pools pool = u.pools pool
    · refine ⟨{ u with pools := Function.update u.pools pool q },
        .inr ⟨pool, q, hpool ▸ hmove, rfl⟩, hbehind, fun k hk => ?_⟩
      cases k with
      | pool pool' => exact update_agree hk pool q
      | _ => exact hk
    · -- The two states differ in this pool, and go on to.
      refine ⟨u, .inl rfl, hbehind, fun k hk => ?_⟩
      cases k with
      | pool pool' =>
        have hne : pool' ≠ pool := by
          rintro rfl
          exact hpool hk
        exact (Function.update_of_ne hne _ _).trans hk
      | _ => exact hk

end

/-! ### Whose cells a handler touches -/

/-- The RPC names the operation, to be routed by it or to remember it. -/
def NamesOp (rpc : Rpc) (opId : String) : Prop :=
  opId ≠ "" ∧ (opOf rpc = some opId ∨
    ∃ md m, rpc = .request md (.executePlan m) ∧ m.body.operationId = some opId)

/-- The cell is one of the tenant's, or an operation of the RPC. -/
def OwnCell (gw : Gateway MemorySig) (rpc : Rpc) (tenant : String) : Cell → Prop
  | .session key => key.tenant = tenant
  | .op opId => NamesOp rpc opId
  | .pool pool => gw.router.tenants.poolFor tenant = .ok (some pool)
  | .tenant tenant' => tenant' = tenant

/-- A command that the contract allows touches cells of the caller only. -/
theorem touches_own {gw : Gateway MemorySig} {rpc : Rpc} {es : List HandlerEvent}
    {c : (GatewaySig MemorySig).Cmd} (h : Contract gw rpc es c) {k : Cell} (hk : k ∈ cellsOf c) :
    ∃ id tenant, Identified gw rpc es id tenant ∧ OwnCell gw rpc tenant k := by
  have hc : ∀ event, c ≠ .inr (.audit event) := by
    rintro event rfl
    exact hk.elim
  rcases h.unaudited hc with h | ⟨id, tenant, hid, rfl⟩ | ⟨id, tenant, hadm, hc⟩
  · -- These commands touch nothing.
    rcases c with (c | c) | c
    · exact h.elim
    · exact h.elim
    · cases c with
      | check tenant user => exact h.elim
      | _ => exact hk.elim
  · obtain rfl : k = .tenant tenant := hk
    exact ⟨id, tenant, hid, rfl⟩
  · refine ⟨id, tenant, hadm.toIdentified, ?_⟩
    rcases c with (c | c) | c
    · obtain ⟨pool⟩ := c
      obtain rfl : k = .pool pool := hk
      exact hc
    · cases c with
      | lookupSession key =>
        obtain rfl : k = .session key := hk
        exact keyOf_tenant hc.1
      | bindSessionIfAbsent key backend =>
        obtain rfl : k = .session key := hk
        exact keyOf_tenant hc.1
      | forgetSession key =>
        obtain rfl : k = .session key := hk
        exact keyOf_tenant hc.1
      | lookupOp opId =>
        obtain rfl : k = .op opId := hk
        exact ⟨hc.2, .inl hc.1⟩
      | bindOp opId backend =>
        obtain rfl : k = .op opId := hk
        obtain ⟨⟨md, m, hrpc, hop, hne⟩, -⟩ := hc
        exact ⟨hne, .inr ⟨md, m, hrpc, hop⟩⟩
      | forgetOp opId =>
        obtain rfl : k = .op opId := hk
        obtain ⟨hne, md, m, addr, rid, resp, rfl, rfl, -⟩ := hc
        exact ⟨hne, .inl rfl⟩
    · cases c with
      | check tenant user => exact hc.elim
      | _ => exact hk.elim

/-! ### Runs -/

section
variable {ι : Type} [DecidableEq ι] {P : PoolId → PoolModel} {limits : LimiterConfig}
  {gw : Gateway MemorySig} {rpc : ι → Rpc} {s : ProcessState P}
  {c : Config (GatewaySig MemorySig) (ProcessState P) ι (Except Status Response)}
  {t : List (Record (GatewaySig MemorySig) (ProcessState P) ι)}

/-- Whoever the authenticator and the tenant resolver take the caller for, its tenant is in `T`. -/
def CallerIn (gw : Gateway MemorySig) (rpc : Rpc) (T : Set String) (es : List HandlerEvent) :
    Prop :=
  ∀ id tenant, Identified gw rpc es id tenant → tenant ∈ T

/-- A cell that a handler touches in a run. -/
theorem touched_of_run (hstore : gw.router.store = MemoryStore.store)
    (hrun : Run (processSemantics P limits) (process gw rpc s) t c) {i : ι} {e : HandlerEvent}
    (hact : (i, e) ∈ actions t) {T : Set String} (hcaller : CallerIn gw (rpc i) T (eventsOf i t))
    {k : Cell} (hk : k ∈ cellsOf e.1) : ∃ tenant ∈ T, OwnCell gw (rpc i) tenant k := by
  obtain ⟨rec, hrec, hactor⟩ := List.mem_filterMap.mp hact
  obtain ⟨t₁, t₂, rfl⟩ := List.append_of_mem hrec
  obtain ⟨id, tenant, hid, hown⟩ := touches_own (contract_of_run hstore hrun hactor) hk
  refine ⟨tenant, hcaller id tenant ⟨?_, hid.resolved⟩, hown⟩
  rw [eventsOf_append]
  exact List.mem_append_left _ hid.authenticated

/-- The cells of some tenants and of the operations that their RPCs name. -/
def tenantCells (gw : Gateway MemorySig) (rpc : ι → Rpc) (keep : ι → Bool) (T : Set String) :
    Set Cell :=
  { k | ∃ i, keep i = true ∧ ∃ tenant ∈ T, OwnCell gw (rpc i) tenant k }

/-- **Tenants do not interfere.** A run of any RPCs of any callers, in any order of their steps,
on shared tables, buckets and pools. The RPCs in `keep` are those of the tenants in `T`. If no pool
serves a tenant in `T` and one outside of it, and no operation is named on both sides, then the
RPCs of `T` have a run by themselves, from the same state: each of them performs the same commands
with the same replies, in the same order, and returns the same. -/
theorem tenants_noninterfering {T : Set String} {keep : ι → Bool}
    (hstore : gw.router.store = MemoryStore.store)
    (hrun : Run (processSemantics P limits) (process gw rpc s) t c)
    (hin : ∀ i, keep i = true → CallerIn gw (rpc i) T (eventsOf i t))
    (hout : ∀ i, keep i = false → CallerIn gw (rpc i) Tᶜ (eventsOf i t))
    (hpools : ∀ a ∈ T, ∀ b ∉ T, ∀ pool, gw.router.tenants.poolFor a = .ok (some pool) →
      gw.router.tenants.poolFor b ≠ .ok (some pool))
    (hops : ∀ i j opId, keep i = true → keep j = false → NamesOp (rpc i) opId →
      ¬ NamesOp (rpc j) opId) :
    ∃ t' c', Run (processSemantics P limits) (process gw rpc s) t' c' ∧
      actions t' = (actions t).filter (fun a => keep a.1) ∧
      (∀ i, keep i = true → c'.thread i = c.thread i) ∧
      (∀ i, keep i = false → c'.thread i = gw.handle (rpc i)) := by
  have hview : (processFootprint P limits).View (tenantCells gw rpc keep T) s s :=
    ⟨le_refl _, fun k _ => by cases k <;> exact rfl⟩
  have hkept : ∀ i e, (i, e) ∈ actions t → keep i = true →
      cellsOf e.1 ⊆ tenantCells gw rpc keep T := by
    intro i e he hi k hk
    obtain ⟨tenant, hT, hown⟩ := touched_of_run hstore hrun he (hin i hi) hk
    exact ⟨i, hi, tenant, hT, hown⟩
  have hdropped : ∀ j e, (j, e) ∈ actions t → keep j = false →
      ∀ k ∈ cellsOf e.1, k ∉ tenantCells gw rpc keep T := by
    rintro j e he hj k hk ⟨i, hi, a, ha, hown⟩
    obtain ⟨b, hb, hown'⟩ := touched_of_run hstore hrun he (hout j hj) hk
    -- A cell of both sides would be one pool, one operation or one tenant of both.
    cases k with
    | session key => exact hb (hown'.symm.trans hown ▸ ha)
    | op opId => exact hops i j opId hi hj hown hown'
    | pool pool => exact hpools a ha b hb pool hown hown'
    | tenant tenant => exact hb (hown'.symm.trans hown ▸ ha)
  obtain ⟨t', c', hrun', hacts, -, hthread⟩ :=
    hrun.restrict (processFootprint P limits) hview hkept hdropped
  refine ⟨t', c', hrun', hacts, fun i hi => ?_, fun i hi => ?_⟩
  · rw [hthread i, hi, if_pos rfl]
  · rw [hthread i, hi]
    rfl

end

/-! ### Two tenants -/

namespace TwoTenants

/-- Tenant `a` has the pool 0, tenant `b` the pool 1. -/
def gateway : Gateway MemorySig where
  router := ⟨⟨fun tenant => if tenant = "a" then some 0 else if tenant = "b" then some 1 else none,
    none, .reject⟩, MemoryStore.store⟩
  tenantResolver := .default
  rateLimited := true
  audit := .default

/-- Both tenants have limits. -/
def limits : LimiterConfig := ⟨fun _ => none, ⟨⟨10, 20⟩, ⟨5, 10⟩⟩⟩

/-- Each pool has a backend of its own. -/
def start : ProcessState staticPools :=
  .fresh fun pool => ⟨if pool = 0 then ["be-a:15002"] else ["be-b:15002"], by split <;> simp, 0⟩

/-- Alice calls for the first tenant and bob for the second one, both with a session `s`. -/
def env : Bool → Env
  | true => .healthy ⟨"alice", some "a", []⟩ "be-a:15002"
  | false => .healthy ⟨"bob", some "b", []⟩ "be-b:15002"

/-- A `Config` call on the session id `s`. -/
def rpc (_ : Bool) : Rpc := .request (fun _ => none) (.config ⟨"s", none, []⟩)

/-- The two calls take turns. -/
def turns : List Bool := (List.replicate 12 [true, false]).flatten

def records : List (Record (GatewaySig MemorySig) (ProcessState staticPools) Bool) :=
  (schedule (fun i => processHandler staticPools limits (env i)) turns
    (process gateway rpc start)).1

/-- The tenant of a caller is the one of its identity. -/
theorem callerIn {T : Set String} (i : Bool) (tenant : String)
    (htenant : gateway.tenantResolver.resolve (rpc i).metadata
      (if i then ⟨"alice", some "a", []⟩ else ⟨"bob", some "b", []⟩) = .ok tenant)
    (hT : tenant ∈ T) : CallerIn gateway (rpc i) T (eventsOf i records) := by
  intro id tenant' hid
  obtain ⟨rec, hrec, hact⟩ := mem_eventsOf.mp hid.authenticated
  have hreply := schedule_reply hrec hact
  have hid' : id = if i then ⟨"alice", some "a", []⟩ else ⟨"bob", some "b", []⟩ := by
    cases i <;> exact Except.ok.inj hreply
  rw [← hid', hid.resolved] at htenant
  exact Except.ok.inj htenant ▸ hT

/-- The two tenants have pools of their own. -/
theorem pools_apart : ∀ a ∈ ({"a"} : Set String), ∀ b ∉ ({"a"} : Set String), ∀ pool,
    gateway.router.tenants.poolFor a = .ok (some pool) →
      gateway.router.tenants.poolFor b ≠ .ok (some pool) := by
  rintro a rfl b hb pool hpool hpool'
  have hzero : pool = 0 := by simpa [gateway, TenantRouter.poolFor] using hpool.symm
  subst hzero
  by_cases hb' : b = "b" <;> simp_all [gateway, TenantRouter.poolFor]

/-- The calls name no operation. -/
theorem ops_apart : ∀ i j opId, id i = true → id j = false → NamesOp (rpc i) opId →
    ¬ NamesOp (rpc j) opId := by
  rintro i j opId hi hj ⟨-, hop | ⟨md, m, hrpc, -⟩⟩
  · cases hop
  · cases hrpc

end TwoTenants

/-- Alice's call, without bob's. -/
theorem tenants_noninterfering_two :
    ∃ c t' c', Run (processSemantics staticPools TwoTenants.limits)
        (process TwoTenants.gateway TwoTenants.rpc TwoTenants.start) TwoTenants.records c ∧
      Run (processSemantics staticPools TwoTenants.limits)
        (process TwoTenants.gateway TwoTenants.rpc TwoTenants.start) t' c' ∧
      actions t' = (actions TwoTenants.records).filter (fun a => a.1) ∧
      c'.thread true = c.thread true := by
  -- The calls of the two tenants take turns.
  have hrun := schedule_run
    (fun i => processHandler_allowed staticPools TwoTenants.limits (TwoTenants.env i))
    TwoTenants.turns (process TwoTenants.gateway TwoTenants.rpc TwoTenants.start)
  have hin : ∀ i, id i = true → CallerIn TwoTenants.gateway (TwoTenants.rpc i) {"a"}
      (eventsOf i TwoTenants.records) := by
    intro i hi
    obtain rfl : i = true := hi
    exact TwoTenants.callerIn true "a" rfl rfl
  have hout : ∀ i, id i = false → CallerIn TwoTenants.gateway (TwoTenants.rpc i) {"a"}ᶜ
      (eventsOf i TwoTenants.records) := by
    intro i hi
    obtain rfl : i = false := hi
    exact TwoTenants.callerIn false "b" rfl (by simp)
  -- Alice's call alone is then a run, with the same replies.
  obtain ⟨t', c', hrun', hacts, hthread, -⟩ := tenants_noninterfering rfl hrun hin hout
    TwoTenants.pools_apart TwoTenants.ops_apart
  exact ⟨_, t', c', hrun, hrun', hacts, hthread true rfl⟩

end SparkGateway.Proofs.Handler
