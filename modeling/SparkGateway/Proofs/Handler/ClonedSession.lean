import SparkGateway.Proofs.Handler.OpAffinity

/-!
# `SparkGateway.Proofs.Handler.ClonedSession`: where a cloned session is

A `CloneSession` that is answered Ok has made a new session on the backend that answered, and on
no other one. The RPCs of the new session should reach that backend. The gateway does not look
into the response, though: it forwards it and enters nothing into the session table. So the new
session is bound like any other one, by its first RPC, to whatever its pool picks then.

`clonedAffinity_iff` says this for every history in which the new session is not released: its
RPCs reach the backend of the clone if and only if a step of the history has bound it there. The
entry of the session table is the invariant. `session_history` follows it through a history, with
the cases of `transition_session_cases` as its step.
-/

set_option autoImplicit false

namespace SparkGateway.Proofs.Handler

open SparkGateway.Lib
open SparkGateway.Spec

section
variable (gw : Gateway MemorySig)

/-- No step of the history releases the session. -/
def SessionKept (key : SessionKey) (steps : List (Env × Rpc)) (s : MemoryStore.State) : Prop :=
  ∀ pre env rpc post, steps = pre ++ (env, rpc) :: post →
    ¬ Releases gw env rpc (tablesAfter gw pre s) key

/-- A step of the history finds no entry for the session and binds it to `addr`. -/
def BoundTo (key : SessionKey) (addr : String) (steps : List (Env × Rpc))
    (s : MemoryStore.State) : Prop :=
  ∃ pre env rpc post, steps = pre ++ (env, rpc) :: post ∧
    Binds gw env rpc (tablesAfter gw pre s) key addr

/-- Every RPC of the session that is routed by the session table and forwarded is forwarded to
`b`. -/
def SessionAffinity (key : SessionKey) (b : String) (s : MemoryStore.State) : Prop :=
  ∀ env rpc, BySession gw env rpc s key → ∀ addr ∈ forwardedTo gw env rpc s, addr = b

/-- The RPC is a `CloneSession` of the tenant and the user of `key` that is forwarded to `b` and
answered Ok with the session of `key`, which is not bound. -/
structure Cloned (env : Env) (rpc : Rpc) (s : MemoryStore.State) (key : SessionKey) (b : String) :
    Prop where
  isClone : ∃ md m, rpc = .request md (.cloneSession m)
  caller : ∃ id, admission gw env rpc.metadata = .ok (id, key.tenant) ∧ id.userId = key.userId
  forwarded : b ∈ forwardedTo gw env rpc s
  answered : ∃ body,
    (runRpc gw MemoryStore.apply env rpc s).value = .ok (.cloneSession key.sessionId body)
  unbound : s.sessions key = none

end

/-! ### The entry of a session through a history -/

section
variable {gw : Gateway MemorySig} {key : SessionKey} {s : MemoryStore.State} {env : Env}
  {rpc : Rpc} {steps : List (Env × Rpc)}

/-- The empty history keeps every session. -/
theorem sessionKept_nil : SessionKept gw key [] s := by
  intro pre env rpc post hsteps
  exact absurd hsteps (nil_ne_split pre (env, rpc) post)

/-- A history keeps the session if its first step and the rest do. -/
theorem sessionKept_cons :
    SessionKept gw key ((env, rpc) :: steps) s ↔ ¬ Releases gw env rpc s key ∧
      SessionKept gw key steps (runRpc gw MemoryStore.apply env rpc s).state := by
  have hsteps := forall_step_cons
    (fun pre step => ¬ Releases gw step.1 step.2 (tablesAfter gw pre s) key) (env, rpc) steps
  simp only [Prod.forall] at hsteps
  exact hsteps

/-- The empty history binds no session. -/
theorem not_boundTo_nil {addr : String} : ¬ BoundTo gw key addr [] s := by
  rintro ⟨pre, env, rpc, post, hsteps, -⟩
  exact nil_ne_split pre (env, rpc) post hsteps

/-- The session is bound by the first step or by one of the rest. -/
theorem boundTo_cons {addr : String} :
    BoundTo gw key addr ((env, rpc) :: steps) s ↔ Binds gw env rpc s key addr ∨
      BoundTo gw key addr steps (runRpc gw MemoryStore.apply env rpc s).state := by
  have hsteps := exists_step_cons
    (fun pre step => Binds gw step.1 step.2 (tablesAfter gw pre s) key addr) (env, rpc) steps
  simp only [Prod.exists] at hsteps
  exact hsteps

variable (hstore : gw.router.store = MemoryStore.store)
include hstore

/-- A step that does not release the session: it binds it, or leaves its entry alone. -/
theorem session_step (hkept : ¬ Releases gw env rpc s key) :
    (∃ addr, Binds gw env rpc s key addr ∧
      (runRpc gw MemoryStore.apply env rpc s).state.sessions key = some addr) ∨
    (∀ addr, ¬ Binds gw env rpc s key addr) ∧
      (runRpc gw MemoryStore.apply env rpc s).state.sessions key = s.sessions key := by
  rw [(runRpc_transition env s hstore rpc).1]
  rcases transition_session_cases gw env rpc s key with ⟨hrel, -⟩ | ⟨-, hcases⟩
  · exact absurd hrel hkept
  · exact hcases

/-- An entry stays in a history that keeps the session, and no step binds the session again. -/
theorem session_history_some {b : String} : ∀ (steps : List (Env × Rpc)) (s : MemoryStore.State),
    SessionKept gw key steps s → s.sessions key = some b →
    (tablesAfter gw steps s).sessions key = some b ∧ ∀ addr, ¬ BoundTo gw key addr steps s := by
  intro steps
  induction steps with
  | nil =>
    intro s _ hb
    exact ⟨hb, fun addr => not_boundTo_nil⟩
  | cons step rest ih =>
    intro s hkept hb
    obtain ⟨env, rpc⟩ := step
    obtain ⟨hheld, hkept⟩ := sessionKept_cons.mp hkept
    have hnot : ∀ addr, ¬ Binds gw env rpc s key addr := by
      rintro addr ⟨-, -, hnone, -⟩
      cases hb.symm.trans hnone
    -- The entry is the same after the first step, so the rest keeps it.
    have hnext : (runRpc gw MemoryStore.apply env rpc s).state.sessions key = some b := by
      rcases session_step hstore hheld with ⟨addr, hbinds, -⟩ | ⟨-, hsame⟩
      · exact absurd hbinds (hnot addr)
      · rw [hsame]
        exact hb
    obtain ⟨hend, hrest⟩ := ih _ hkept hnext
    refine ⟨hend, fun addr hbound => ?_⟩
    rcases boundTo_cons.mp hbound with hbinds | hbound
    · exact hnot addr hbinds
    · exact hrest addr hbound

/-- **The entry of a session.** In a history that keeps the session, and starts without an entry
for it, the entry is what a step of the history has bound. -/
theorem session_history : ∀ (steps : List (Env × Rpc)) (s : MemoryStore.State),
    SessionKept gw key steps s → s.sessions key = none → ∀ b : String,
    ((tablesAfter gw steps s).sessions key = some b ↔ BoundTo gw key b steps s) := by
  intro steps
  induction steps with
  | nil =>
    intro s _ hnone b
    constructor
    · intro hb
      cases hnone.symm.trans hb
    · exact fun hbound => absurd hbound not_boundTo_nil
  | cons step rest ih =>
    intro s hkept hnone b
    obtain ⟨env, rpc⟩ := step
    obtain ⟨hheld, hkept⟩ := sessionKept_cons.mp hkept
    rw [boundTo_cons]
    rcases session_step hstore hheld with ⟨addr, hbinds, hnext⟩ | ⟨hnot, hsame⟩
    · -- Bound by this step: the rest of the history changes nothing.
      obtain ⟨hend, hrest⟩ := session_history_some hstore rest _ hkept hnext
      constructor
      · intro hb
        obtain rfl : addr = b := Option.some.inj (hend.symm.trans hb)
        exact .inl hbinds
      · rintro (hbinds' | hbound)
        · obtain ⟨-, -, -, pool, hpool, hpick⟩ := hbinds
          obtain ⟨-, -, -, pool', hpool', hpick'⟩ := hbinds'
          obtain rfl : pool = pool' := by
            simpa using hpool.symm.trans hpool'
          rw [← hpick', hpick]
          exact hend
        · exact absurd hbound (hrest b)
    · -- Not bound by this step: the entry is still absent, and the rest decides.
      rw [hnone] at hsame
      have hrest := ih _ hkept hsame b
      constructor
      · exact fun hb => .inr (hrest.mp hb)
      · rintro (hbinds | hbound)
        · exact absurd hbinds (hnot b)
        · exact hrest.mpr hbound

/-! ### Where the RPCs of a session go -/

/-- The RPCs of a bound session reach its backend. -/
theorem sessionAffinity_of_bound {b : String} (hzero : key.isZero = false)
    (hb : s.sessions key = some b) : SessionAffinity gw key b s := by
  intro env rpc hby addr haddr
  obtain ⟨id, tenant, hadm, hroute, -⟩ := contact_routed hstore haddr
  rw [routeOf_of_bySession hby hadm, routeBySession_addr_iff] at hroute
  obtain ⟨pool, -, hleads⟩ := hroute
  simp only [hzero, hb, Bool.false_eq_true, if_false] at hleads
  exact (Option.some.inj hleads).symm

/-- A session that is not bound to `b` has an RPC that reaches another backend. -/
theorem not_sessionAffinity {b : String} {pool : PoolId} {md : MetadataMap} {id : Identity}
    (hadm : admission gw env md = .ok (id, key.tenant)) (huser : id.userId = key.userId)
    (hpool : gw.router.tenants.poolFor key.tenant = .ok (some pool))
    (hnot : key.isZero = true ∨ s.sessions key ≠ some b) : ¬ SessionAffinity gw key b s := by
  intro haff
  -- The pool picks another address than `b`, and everyone can be dialed.
  let env' : Env := { env with pick := fun _ => some (b ++ "x"), channel := fun _ => .ok () }
  let rpc' : Rpc := .request md (.config ⟨key.sessionId, none, []⟩)
  have hadm' : admission gw env' rpc'.metadata = .ok (id, key.tenant) := hadm
  have hby : BySession gw env' rpc' s key := by
    refine ⟨id, key.tenant, key.sessionId, hadm', rfl, ?_, ?_⟩
    · show key = ⟨key.tenant, id.userId, key.sessionId⟩
      rw [huser]
    · intro opId hop
      cases hop
  obtain ⟨addr, hne, hleads⟩ : ∃ addr, addr ≠ b ∧ LeadsTo gw.router.tenants env' key s addr := by
    cases hzero : key.isZero with
    | true => exact ⟨b ++ "x", append_x_ne b, pool, hpool, by rw [hzero]; rfl⟩
    | false =>
      cases hs : s.sessions key with
      | none => exact ⟨b ++ "x", append_x_ne b, pool, hpool, by rw [hzero, hs]; rfl⟩
      | some c =>
        refine ⟨c, ?_, pool, hpool, by rw [hzero, hs]; rfl⟩
        rintro rfl
        rcases hnot with hzero' | hne
        · cases hzero.symm.trans hzero'
        · exact hne hs
  refine hne (haff env' rpc' hby addr (contact_of_routed hstore hadm' ?_ rfl))
  rw [routeOf_of_bySession hby hadm']
  exact (routeBySession_addr_iff _ _ _ _ _).mpr hleads

/-- **Cloned sessions.** After a `CloneSession` was forwarded to `b` and answered Ok with a session
that is not bound, and while that session is not released, its RPCs that are routed by the session
table and forwarded reach `b` if and only if an RPC since then, or the `CloneSession` itself, has
bound the session to `b`. -/
theorem clonedAffinity_iff {b : String} (hclone : Cloned gw env rpc s key b)
    (steps : List (Env × Rpc))
    (hkept : SessionKept gw key steps (runRpc gw MemoryStore.apply env rpc s).state) :
    SessionAffinity gw key b (tablesAfter gw ((env, rpc) :: steps) s) ↔
      BoundTo gw key b ((env, rpc) :: steps) s := by
  obtain ⟨⟨md, m, rfl⟩, ⟨id, hadm, huser⟩, hforwarded, -, hnone⟩ := hclone
  have hkept' : SessionKept gw key ((env, .request md (.cloneSession m)) :: steps) s :=
    sessionKept_cons.mpr ⟨not_releases (by simp), hkept⟩
  have hentry := session_history hstore _ s hkept' hnone b
  constructor
  · intro haff
    by_contra hbound
    -- The tenant has a pool: the clone was routed through it.
    obtain ⟨id', tenant', hadm', hroute, -⟩ := contact_routed hstore hforwarded
    obtain ⟨rfl, rfl⟩ := Prod.mk.inj (Except.ok.inj (hadm.symm.trans hadm'))
    obtain ⟨pool, hpool, -⟩ :
        LeadsTo gw.router.tenants env (keyFromIdentity key.tenant m.sessionId id) s b :=
      (routeBySession_addr_iff _ _ _ _ _).mp hroute
    exact not_sessionAffinity hstore hadm huser hpool (.inr (mt hentry.mp hbound)) haff
  · intro hbound
    have hzero : key.isZero = false := by
      obtain ⟨_, _, _, _, _, _, hzero, _⟩ := hbound
      exact hzero
    exact sessionAffinity_of_bound hstore hzero (hentry.mpr hbound)

end

/-! ### A clone whose first RPC goes elsewhere -/

/-- A `CloneSession` of `sess-1`. -/
def cloneRpc : Rpc := .request (fun _ => none) (.cloneSession ⟨"sess-1", none, []⟩)

/-- Everyone works, and the clone gets the session `sess-2`. -/
def cloneEnv : Env :=
  { Env.healthy alice "be-a:15002" with call := fun _ _ _ => .ok (.cloneSession "sess-2" []) }

/-- A `Config` call on `sess-2`. -/
def configClone : Rpc := .request (fun _ => none) (.config ⟨"sess-2", none, []⟩)

/-- The session that the clone is answered with. -/
def cloneKey : SessionKey := ⟨"default", "alice", "sess-2"⟩

/-- On empty tables the clone is answered with a session that is not bound. -/
theorem cloned_new : Cloned onePool cloneEnv cloneRpc MemoryStore.new cloneKey "be-a:15002" where
  isClone := ⟨_, _, rfl⟩
  caller := ⟨alice, rfl, rfl⟩
  forwarded := List.mem_singleton.mpr rfl
  answered := ⟨[], rfl⟩
  unbound := rfl

/-- The first RPC of the clone picks its backend, so the clone stays there. -/
theorem clonedAffinity_firstPick :
    SessionAffinity onePool cloneKey "be-a:15002"
      (tablesAfter onePool [(cloneEnv, cloneRpc), (Env.healthy alice "be-a:15002", configClone)]
        MemoryStore.new) := by
  have hkept : SessionKept onePool cloneKey [(Env.healthy alice "be-a:15002", configClone)]
      (runRpc onePool MemoryStore.apply cloneEnv cloneRpc MemoryStore.new).state :=
    sessionKept_cons.mpr ⟨not_releases (by simp [configClone]), sessionKept_nil⟩
  refine (clonedAffinity_iff rfl cloned_new _ hkept).mpr ?_
  refine ⟨[(cloneEnv, cloneRpc)], Env.healthy alice "be-a:15002", configClone, [], rfl, ?_⟩
  have hby : BySession onePool (Env.healthy alice "be-a:15002") configClone
      (tablesAfter onePool [(cloneEnv, cloneRpc)] MemoryStore.new) cloneKey :=
    ⟨alice, "default", "sess-2", rfl, rfl, rfl, fun opId hop => by cases hop⟩
  exact ⟨hby, rfl, by decide +kernel, 0, rfl, rfl⟩

/-- Right after the clone its session is bound nowhere, and the next RPC of it goes where the pool
picks. -/
theorem clonedSession_goes_elsewhere :
    let s₁ := tablesAfter onePool [(cloneEnv, cloneRpc)] MemoryStore.new
    Cloned onePool cloneEnv cloneRpc MemoryStore.new cloneKey "be-a:15002" ∧
      BySession onePool (Env.healthy alice "be-b:15002") configClone s₁ cloneKey ∧
      forwardedTo onePool (Env.healthy alice "be-b:15002") configClone s₁ = ["be-b:15002"] ∧
      ¬ SessionAffinity onePool cloneKey "be-a:15002" s₁ := by
  intro s₁
  have hby : BySession onePool (Env.healthy alice "be-b:15002") configClone s₁ cloneKey :=
    ⟨alice, "default", "sess-2", rfl, rfl, rfl, fun opId hop => by cases hop⟩
  have hforwarded : forwardedTo onePool (Env.healthy alice "be-b:15002") configClone s₁
      = ["be-b:15002"] := by decide +kernel
  refine ⟨cloned_new, hby, hforwarded, fun haff => ?_⟩
  have hsame := haff _ _ hby "be-b:15002" (by rw [hforwarded]; exact List.mem_singleton_self _)
  exact absurd hsame (by decide)

end SparkGateway.Proofs.Handler
