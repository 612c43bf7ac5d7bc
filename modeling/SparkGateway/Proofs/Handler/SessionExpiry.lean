import SparkGateway.Lib.Steps
import SparkGateway.Proofs.Handler.BodyRun
import SparkGateway.Spec.RedisExpiry

/-!
# `SparkGateway.Proofs.Handler.SessionExpiry`: how long an active session stays bound

In Redis a binding expires `session_ttl` after it was last refreshed. A client that keeps sending
RPCs should keep its binding. But only an RPC that is routed by the session table refreshes it
(`Refreshes`). One that is routed by its operation refreshes the entry of the operation and does
not look at the session, so a client that only reattaches to a long operation loses its session
meanwhile.

The RPCs of a run are served one after another, each at one time, on the database with its clock
(`RedisStore.applyAt`). `entry_step` is what one RPC does to the entry of a session, and
`entry_history` follows the entry through a run: it expires `session_ttl` after the last refresh
(`live_iff`). `staysBound_iff` says when the binding is there at every RPC of the session.

Two sessions with the same Redis name share their entry, so the lemmas are about names.
-/

set_option autoImplicit false

namespace SparkGateway.Proofs.Handler

open SparkGateway.Lib
open SparkGateway.Spec
open SparkGateway.Spec.RedisStore (TimedDb TimedValue applyAt expiry sessionKey opKey
  sessionKey_ne_opKey)

/-! ### Runs with a clock -/

/-- An RPC with the time at which it is served and the answers of the world. -/
structure TimedRpc where
  time : ℕ
  env : Env
  rpc : Rpc

section
variable (gw : Gateway RedisSig) (cfg : RedisStoreConfig)

/-- The database after an RPC. -/
def TimedRpc.after (step : TimedRpc) (db : TimedDb) : TimedDb :=
  (runRpc gw (applyAt step.time) step.env step.rpc db).state

/-- The database after a run. -/
def dbAfter (steps : List TimedRpc) (db : TimedDb) : TimedDb :=
  steps.foldl (fun db step => step.after gw db) db

/-- The RPC is admitted, names the session of `key`, and is routed to `addr`, by the session table
or by its operation. -/
def RoutedTo (key : SessionKey) (addr : String) (step : TimedRpc) (db : TimedDb) : Prop :=
  ∃ id tenant sessionId, admission gw step.env step.rpc.metadata = .ok (id, tenant) ∧
    sessionOf step.rpc = some sessionId ∧ key = keyFromIdentity tenant sessionId id ∧
    (routing step.env (applyAt step.time) gw step.rpc id tenant db).1 = .ok addr

/-- The RPC is routed, and names the session of `key`. -/
def RoutedOf (key : SessionKey) (step : TimedRpc) (db : TimedDb) : Prop :=
  ∃ addr, RoutedTo gw key addr step db

/-- The RPC names no operation, or one that the index does not know. -/
def ByTable (step : TimedRpc) (db : TimedDb) : Prop :=
  ∀ opId, opOf step.rpc = some opId → opId = "" ∨ db.valueAt step.time (opKey cfg opId) = none

/-- The RPC is routed by the session table, under the Redis name `name`. -/
def Refreshes (name : String) (step : TimedRpc) (db : TimedDb) : Prop :=
  ∃ key, RoutedOf gw key step db ∧ ByTable cfg step db ∧ key.isZero = false ∧
    sessionKey cfg key = name

/-- The RPC is an admitted `ReleaseSession` of the session, and the backend that it is routed to
answers Ok. -/
def ReleasesKey (key : SessionKey) (step : TimedRpc) (db : TimedDb) : Prop :=
  ∃ id tenant md m addr, admission gw step.env step.rpc.metadata = .ok (id, tenant) ∧
    step.rpc = .request md (.releaseSession m) ∧ key = keyFromIdentity tenant m.sessionId id ∧
    (routing step.env (applyAt step.time) gw step.rpc id tenant db).1 = .ok addr ∧
    answeredOk step.env addr (.releaseSession (m.stamp id)) = true

/-- The RPC releases a session with the Redis name `name`. -/
def ReleasesName (name : String) (step : TimedRpc) (db : TimedDb) : Prop :=
  ∃ key, ReleasesKey gw key step db ∧ sessionKey cfg key = name

/-- A step of the run at which `P` holds is less than `ttl` before `now`. -/
def Within (P : TimedRpc → TimedDb → Prop) (ttl now : ℕ) (steps : List TimedRpc) (db : TimedDb) :
    Prop :=
  ∃ pre step post, steps = pre ++ step :: post ∧ P step (dbAfter gw pre db) ∧
    now < expiry step.time ttl

/-- `P` holds at every step of the run, for the steps before it and the database that it finds. -/
def Each (P : List TimedRpc → TimedRpc → TimedDb → Prop) (first : TimedRpc)
    (rest : List TimedRpc) (db : TimedDb) : Prop :=
  ∀ pre step post, rest = pre ++ step :: post →
    P (first :: pre) step (dbAfter gw (first :: pre) db)

/-- A run that begins by binding the session to `b`, or by finding it bound there. -/
structure StartsBound (key : SessionKey) (b : String) (first : TimedRpc) (rest : List TimedRpc)
    (db : TimedDb) : Prop where
  routed : RoutedTo gw key b first db
  byTable : ByTable cfg first db
  named : key.isZero = false
  held : ¬ ReleasesKey gw key first db
  ordered : (first :: rest).Pairwise (·.time ≤ ·.time)

/-- At every later RPC of the session, its entry is there and holds `b`. -/
def StaysBound (key : SessionKey) (b : String) (first : TimedRpc) (rest : List TimedRpc)
    (db : TimedDb) : Prop :=
  Each gw (fun _ step db' => RoutedOf gw key step db' →
    db'.valueAt step.time (sessionKey cfg key) = some b) first rest db

/-- Every later RPC of the session comes less than `session_ttl` after another one. -/
def Active (key : SessionKey) (first : TimedRpc) (rest : List TimedRpc) (db : TimedDb) : Prop :=
  Each gw (fun before step db' => RoutedOf gw key step db' →
    Within gw (RoutedOf gw key) cfg.sessionTtl step.time before db) first rest db

/-- Every later RPC at which `Q` holds comes less than `session_ttl` after one that was routed by
the session table, under the Redis name of the session. -/
def Refreshed (Q : TimedRpc → TimedDb → Prop) (key : SessionKey) (first : TimedRpc)
    (rest : List TimedRpc) (db : TimedDb) : Prop :=
  Each gw (fun before step db' => Q step db' →
    Within gw (Refreshes gw cfg (sessionKey cfg key)) cfg.sessionTtl step.time before db)
    first rest db

end

/-! ### The store at one time -/

section
variable (now : ℕ) (db : TimedDb)

/-- A lookup refreshes what it finds. -/
theorem served_lookupAndRefresh (name : String) (ttl : ℕ) :
    served (applyAt now) (RedisStore.lookupAndRefresh name ttl) db =
      match db.valueAt now name with
      | some v => (some v, Function.update db name (some ⟨v, expiry now ttl⟩))
      | none => (none, db) := by
  unfold RedisStore.lookupAndRefresh
  rw [served_step]
  simp only [applyAt]
  cases hv : db.valueAt now name with
  | none => rfl
  | some v =>
    simp only [served_step, applyAt, hv]
    rfl

variable {now db} in
/-- A bind of a name that is not there. -/
theorem served_bindSessionIfAbsent {cfg : RedisStoreConfig} {key : SessionKey}
    (hnone : db.valueAt now (sessionKey cfg key) = none) (backend : String) :
    served (applyAt now) (RedisStore.bindSessionIfAbsent cfg key backend) db =
      (backend, Function.update db (sessionKey cfg key)
        (some ⟨backend, expiry now cfg.sessionTtl⟩)) := by
  unfold RedisStore.bindSessionIfAbsent
  rw [served_step]
  simp only [applyAt, hnone]
  rfl

end

/-! ### The entry of a session in one RPC -/

section
variable {gw : Gateway RedisSig} {cfg : RedisStoreConfig}
  (hstore : gw.router.store = RedisStore.store cfg)
include hstore

/-- Routing by session writes the address with a new time to live, and keeps a live one. Without
an address, or without a session id, it changes nothing. -/
theorem resolved_redis (env : Env) (now : ℕ) (db : TimedDb) (key : SessionKey) :
    let run := resolved env (applyAt now) gw.router key db
    (key.isZero = false ∧ ∃ addr, addrIn run.1 = .ok addr ∧
      run.2.1 = Function.update db (sessionKey cfg key)
        (some ⟨addr, expiry now cfg.sessionTtl⟩) ∧
      ∀ v, db.valueAt now (sessionKey cfg key) = some v → addr = v) ∨
    ((key.isZero = true ∨ ∀ addr, addrIn run.1 ≠ .ok addr) ∧ run.2.1 = db) := by
  have hlookup := served_lookupAndRefresh now db (sessionKey cfg key) cfg.sessionTtl
  unfold resolved
  rw [hstore]
  cases gw.router.tenants.poolFor key.tenant with
  | error status => exact .inr ⟨.inr nofun, rfl⟩
  | ok pool? =>
    cases pool? with
    | none => exact .inr ⟨.inr nofun, rfl⟩
    | some pool =>
      cases hzero : key.isZero with
      | true => exact .inr ⟨.inl rfl, rfl⟩
      | false =>
        simp only [Bool.false_eq_true, if_false, RedisStore.store, RedisStore.lookupSession,
          hlookup]
        -- A live entry is refreshed, and an expired one is bound anew to the pick.
        cases hv : db.valueAt now (sessionKey cfg key) with
        | some v => exact .inl ⟨trivial, v, rfl, rfl, fun w hw => Option.some.inj hw⟩
        | none =>
          cases env.pick pool with
          | none => exact .inr ⟨.inr nofun, rfl⟩
          | some chosen =>
            simp only [served_bindSessionIfAbsent hv chosen]
            exact .inl ⟨trivial, chosen, rfl, rfl, fun w hw => by cases hw⟩

/-- What the operation index says, and that looking does not touch a session. -/
theorem opServed_redis (now : ℕ) (db : TimedDb) (opId : String) :
    (opServed (applyAt now) gw.router opId db).1 =
        (if opId = "" then none else db.valueAt now (opKey cfg opId)) ∧
      ((opServed (applyAt now) gw.router opId db).1 = none →
        (opServed (applyAt now) gw.router opId db).2 = db) ∧
      ∀ key, (opServed (applyAt now) gw.router opId db).2 (sessionKey cfg key)
        = db (sessionKey cfg key) := by
  have hlookup := served_lookupAndRefresh now db (opKey cfg opId) cfg.opTtl
  unfold opServed
  rw [hstore]
  by_cases hempty : opId = ""
  · simp [hempty]
  · simp only [beq_iff_eq, hempty, if_false, RedisStore.store, RedisStore.lookupOp, hlookup]
    cases db.valueAt now (opKey cfg opId) with
    | none => simp
    | some b =>
      refine ⟨rfl, nofun, fun key => ?_⟩
      exact Function.update_of_ne (sessionKey_ne_opKey cfg key opId) _ _

/-- Settling touches a session only by releasing it. -/
theorem settled_redis {env : Env} {now : ℕ} {rpc : Rpc} (id : Identity) (tenant addr : String)
    (s : TimedDb) (key : SessionKey)
    (hheld : ∀ md m, rpc = .request md (.releaseSession m) →
      answeredOk env addr (.releaseSession (m.stamp id)) = true →
      sessionKey cfg (keyFromIdentity tenant m.sessionId id) ≠ sessionKey cfg key) :
    settled env (applyAt now) gw rpc id tenant addr s (sessionKey cfg key)
      = s (sessionKey cfg key) := by
  -- The operations are under other keys.
  have hop : ∀ opId v, Function.update s (opKey cfg opId) v (sessionKey cfg key)
      = s (sessionKey cfg key) :=
    fun opId v => Function.update_of_ne (sessionKey_ne_opKey cfg key opId) _ _
  unfold settled
  rw [hstore]
  split
  · -- `ExecutePlan` writes an operation, and `ReleaseExecute` removes one.
    next md m =>
    cases m.body.operationId with
    | none => rfl
    | some opId =>
      cases hempty : opId == "" with
      | true => simp only [hempty, if_true]
      | false =>
        simp only [hempty, Bool.false_eq_true, if_false]
        exact hop _ _
  · split
    · exact hop _ _
    · rfl
  · -- `ReleaseSession` removes an entry, but not this one.
    split
    · next md m hok => exact Function.update_of_ne (hheld md m rfl hok).symm _ _
    · rfl
  · rfl

end

section
variable {gw : Gateway RedisSig} {cfg : RedisStoreConfig} {step : TimedRpc} {db : TimedDb}
  {key key' : SessionKey} {addr addr' : String}

/-- The caller and the session of a routed RPC are those that it names. -/
theorem RoutedTo.of_admitted {id : Identity} {tenant sessionId : String}
    (h : RoutedTo gw key addr step db)
    (hadm : admission gw step.env step.rpc.metadata = .ok (id, tenant))
    (hsession : sessionOf step.rpc = some sessionId) :
    key = keyFromIdentity tenant sessionId id ∧
      (routing step.env (applyAt step.time) gw step.rpc id tenant db).1 = .ok addr := by
  obtain ⟨id', tenant', sessionId', hadm', hsession', rfl, hroute⟩ := h
  obtain ⟨rfl, rfl⟩ := Prod.mk.inj (Except.ok.inj (hadm.symm.trans hadm'))
  obtain rfl : sessionId = sessionId' := Option.some.inj (hsession.symm.trans hsession')
  exact ⟨rfl, hroute⟩

/-- An RPC names one session and is routed to one address. -/
theorem RoutedTo.unique (h : RoutedTo gw key addr step db) (h' : RoutedTo gw key' addr' step db) :
    key = key' ∧ addr = addr' := by
  obtain ⟨id, tenant, sessionId, hadm, hsession, rfl, hroute⟩ := h
  obtain ⟨rfl, hroute'⟩ := h'.of_admitted hadm hsession
  exact ⟨rfl, Except.ok.inj (hroute.symm.trans hroute')⟩

/-- A release is routed. -/
theorem ReleasesKey.routedOf (h : ReleasesKey gw key step db) : RoutedOf gw key step db := by
  obtain ⟨id, tenant, md, m, addr, hadm, hrpc, rfl, hroute, -⟩ := h
  exact ⟨addr, id, tenant, m.sessionId, hadm, by rw [hrpc]; rfl, rfl, hroute⟩

/-- Only a `ReleaseSession` releases a session. -/
theorem not_releasesKey (hrpc : ∀ md m, step.rpc ≠ .request md (.releaseSession m)) :
    ¬ ReleasesKey gw key step db := by
  rintro ⟨_, _, md, m, _, _, heq, -⟩
  exact hrpc md m heq

variable (hstore : gw.router.store = RedisStore.store cfg)
include hstore

/-- Routing by the session table is `resolve_session_detailed` on the database as it is. -/
theorem routing_of_byTable {sessionId : String} (id : Identity) (tenant : String)
    (hsession : sessionOf step.rpc = some sessionId) (hby : ByTable cfg step db) :
    let run := routing step.env (applyAt step.time) gw step.rpc id tenant db
    let found := resolved step.env (applyAt step.time) gw.router
      (keyFromIdentity tenant sessionId id) db
    run.1 = addrIn found.1 ∧ run.2.1 = found.2.1 := by
  unfold routing
  rw [hsession]
  cases hop : opOf step.rpc with
  | none => exact ⟨rfl, rfl⟩
  | some opId =>
    obtain ⟨hvalue, hsame, -⟩ := opServed_redis hstore step.time db opId
    -- The index does not know the operation, so the session decides.
    have hnone : (opServed (applyAt step.time) gw.router opId db).1 = none := by
      rw [hvalue]
      rcases hby opId hop with hempty | hmissing
      · exact if_pos hempty
      · rw [hmissing, ite_self]
    have hindex : opServed (applyAt step.time) gw.router opId db = (none, db) :=
      Prod.ext hnone (hsame hnone)
    simp [hindex]

/-- Routing by operation does not touch a session. -/
theorem routing_of_not_byTable {id : Identity} {tenant : String} (hby : ¬ ByTable cfg step db) :
    (routing step.env (applyAt step.time) gw step.rpc id tenant db).2.1 (sessionKey cfg key)
      = db (sessionKey cfg key) := by
  simp only [ByTable, not_forall, not_or] at hby
  obtain ⟨opId, hop, hne, hlive⟩ := hby
  obtain ⟨hvalue, -, hsame⟩ := opServed_redis hstore step.time db opId
  rw [if_neg hne] at hvalue
  unfold routing
  rw [hop]
  cases sessionOf step.rpc with
  | none => rfl
  | some sessionId =>
    rcases hindex : opServed (applyAt step.time) gw.router opId db with ⟨found, s'⟩
    rw [hindex] at hvalue hsame
    cases found with
    | none => exact absurd hvalue.symm hlive
    | some b =>
      simp only [hindex]
      exact hsame key

/-- The entry of a session after an RPC was routed by the session table: with the address that it
was routed to if the names are the same, and otherwise as it was. -/
theorem routing_entry_of_byTable {id : Identity} {tenant sessionId : String}
    (hadm : admission gw step.env step.rpc.metadata = .ok (id, tenant))
    (hsession : sessionOf step.rpc = some sessionId) (hby : ByTable cfg step db)
    (key : SessionKey) :
    let run := routing step.env (applyAt step.time) gw step.rpc id tenant db
    (∃ addr, RoutedTo gw (keyFromIdentity tenant sessionId id) addr step db ∧
      Refreshes gw cfg (sessionKey cfg key) step db ∧
      run.2.1 (sessionKey cfg key) = some ⟨addr, expiry step.time cfg.sessionTtl⟩ ∧
      ∀ v, db.valueAt step.time (sessionKey cfg key) = some v → addr = v) ∨
    (¬ Refreshes gw cfg (sessionKey cfg key) step db ∧
      run.2.1 (sessionKey cfg key) = db (sessionKey cfg key)) := by
  intro run
  obtain ⟨hvalue, hnext⟩ : run.1 = _ ∧ run.2.1 = _ :=
    routing_of_byTable hstore id tenant hsession hby
  have hrouted : ∀ addr, run.1 = .ok addr →
      RoutedTo gw (keyFromIdentity tenant sessionId id) addr step db :=
    fun addr haddr => ⟨id, tenant, sessionId, hadm, hsession, rfl, haddr⟩
  rw [hnext]
  rcases resolved_redis hstore step.env step.time db (keyFromIdentity tenant sessionId id) with
    ⟨hzero, addr, haddr, hdb, hlive⟩ | ⟨hnot, hdb⟩
  · have hto := hrouted addr (hvalue.trans haddr)
    rw [hdb]
    by_cases hname : sessionKey cfg (keyFromIdentity tenant sessionId id) = sessionKey cfg key
    · rw [hname] at hlive ⊢
      exact .inl ⟨addr, hto, ⟨_, ⟨addr, hto⟩, hby, hzero, hname⟩, Function.update_self _ _ _, hlive⟩
    · refine .inr ⟨?_, Function.update_of_ne (Ne.symm hname) _ _⟩
      rintro ⟨key', ⟨addr', hto'⟩, -, -, hname'⟩
      rw [← (hto.unique hto').1] at hname'
      exact hname hname'
  · -- Without an address, or without a session id, there is nothing to refresh.
    rw [hdb]
    refine .inr ⟨?_, rfl⟩
    rintro ⟨key', ⟨addr', hto'⟩, -, hzero', -⟩
    obtain ⟨rfl, haddr'⟩ := hto'.of_admitted hadm hsession
    rcases hnot with hzero | hnot
    · cases hzero.symm.trans hzero'
    · exact hnot addr' (hvalue.symm.trans haddr')

/-- The entry of a session after routing: refreshed by an RPC that is routed by the session table
under its name, and otherwise as it was. -/
theorem routing_entry {id : Identity} {tenant : String}
    (hadm : admission gw step.env step.rpc.metadata = .ok (id, tenant)) (db : TimedDb)
    (key : SessionKey) :
    let run := routing step.env (applyAt step.time) gw step.rpc id tenant db
    (∃ key' addr, RoutedTo gw key' addr step db ∧ Refreshes gw cfg (sessionKey cfg key) step db ∧
      run.2.1 (sessionKey cfg key) = some ⟨addr, expiry step.time cfg.sessionTtl⟩ ∧
      ∀ v, db.valueAt step.time (sessionKey cfg key) = some v → addr = v) ∨
    (¬ Refreshes gw cfg (sessionKey cfg key) step db ∧
      run.2.1 (sessionKey cfg key) = db (sessionKey cfg key)) := by
  by_cases hby : ByTable cfg step db
  · cases hsession : sessionOf step.rpc with
    | none =>
      -- Without a session the RPC routes to no entry.
      refine .inr ⟨?_, ?_⟩
      · rintro ⟨_, ⟨_, _, _, _, _, hsome, _⟩, _⟩
        cases hsession.symm.trans hsome
      · unfold routing
        rw [hsession]
    | some sessionId =>
      rcases routing_entry_of_byTable hstore hadm hsession hby key with ⟨addr, hentry⟩ | hother
      · exact .inl ⟨_, addr, hentry⟩
      · exact .inr hother
  · exact .inr ⟨fun ⟨_, _, hby', _⟩ => hby hby', routing_of_not_byTable hstore hby⟩

/-- **One RPC.** Unless it releases a session with this name, an RPC that is routed by the session
table under the name writes the address that it is routed to, which is the live one if there is
one, with a new time to live. Any other RPC leaves the entry alone. -/
theorem entry_step (key : SessionKey) (hheld : ¬ ReleasesName gw cfg (sessionKey cfg key) step db) :
    (∃ key' addr, RoutedTo gw key' addr step db ∧
      Refreshes gw cfg (sessionKey cfg key) step db ∧
      step.after gw db (sessionKey cfg key) = some ⟨addr, expiry step.time cfg.sessionTtl⟩ ∧
      ∀ v, db.valueAt step.time (sessionKey cfg key) = some v → addr = v) ∨
    (¬ Refreshes gw cfg (sessionKey cfg key) step db ∧
      step.after gw db (sessionKey cfg key) = db (sessionKey cfg key)) := by
  cases hadm : admission gw step.env step.rpc.metadata with
  | error status =>
    refine .inr ⟨?_, ?_⟩
    · rintro ⟨_, ⟨_, _, _, _, hok, _⟩, _⟩
      cases hadm.symm.trans hok
    · unfold TimedRpc.after
      rw [(runRpc_of_refused _ db hadm).2.1]
  | ok p =>
    obtain ⟨id, tenant⟩ := p
    -- What comes after the routing does not touch the entry.
    have hafter : step.after gw db (sessionKey cfg key) =
        (routing step.env (applyAt step.time) gw step.rpc id tenant db).2.1
          (sessionKey cfg key) := by
      unfold TimedRpc.after
      rw [(runRpc_of_admitted _ db hadm).2.1, observe_body]
      rcases hrun : routing step.env (applyAt step.time) gw step.rpc id tenant db with
        ⟨value, s', es⟩
      cases value with
      | error status => rfl
      | ok addr =>
        refine settled_redis hstore id tenant addr s' key fun md m hrpc hok hname => ?_
        exact hheld ⟨_, ⟨id, tenant, md, m, addr, hadm, hrpc, rfl, by rw [hrun], hok⟩, hname⟩
    rw [hafter]
    exact routing_entry hstore hadm db key

end

/-! ### The entry of a session in a run -/

section
variable {gw : Gateway RedisSig} {cfg : RedisStoreConfig} {key : SessionKey} {b : String}
  {first step : TimedRpc} {steps rest : List TimedRpc} {db : TimedDb}

/-- The database after one more RPC. -/
theorem dbAfter_snoc : dbAfter gw (steps ++ [step]) db = step.after gw (dbAfter gw steps db) := by
  unfold dbAfter
  rw [List.foldl_append]
  rfl

/-- A refresh lies within the lifetime in a longer run if it did before, or if the last RPC makes
one. -/
theorem within_snoc (P : TimedRpc → TimedDb → Prop) (ttl now : ℕ) (steps : List TimedRpc)
    (step : TimedRpc) :
    Within gw P ttl now (steps ++ [step]) db ↔
      Within gw P ttl now steps db ∨ (P step (dbAfter gw steps db) ∧ now < expiry step.time ttl) :=
  exists_step_snoc _ step steps

/-- The steps of a run with one more RPC. -/
theorem each_snoc (P : List TimedRpc → TimedRpc → TimedDb → Prop) (first : TimedRpc)
    (rest : List TimedRpc) (step : TimedRpc) :
    Each gw P first (rest ++ [step]) db ↔
      Each gw P first rest db ∧ P (first :: rest) step (dbAfter gw (first :: rest) db) :=
  forall_step_snoc (fun pre x => P (first :: pre) x (dbAfter gw (first :: pre) db)) step rest

/-- A run of one RPC has no later steps. -/
theorem each_nil (P : List TimedRpc → TimedRpc → TimedDb → Prop) (first : TimedRpc) :
    Each gw P first [] db := by
  intro pre step post hsteps
  exact absurd hsteps (nil_ne_split pre step post)

/-- The beginning of a run. -/
theorem Each.take {P : List TimedRpc → TimedRpc → TimedDb → Prop}
    (h : Each gw P first (steps ++ rest) db) : Each gw P first steps db := by
  intro pre step post hsteps
  exact h pre step (post ++ rest) (by rw [hsteps]; simp)

/-- The beginning of a run starts bound too. -/
theorem StartsBound.take (h : StartsBound gw cfg key b first (steps ++ rest) db) :
    StartsBound gw cfg key b first steps db := by
  have hsublist : (first :: steps).Sublist (first :: (steps ++ rest)) :=
    List.cons_sublist_cons.mpr (List.sublist_append_left _ _)
  exact { h with ordered := h.ordered.sublist hsublist }

variable (gw cfg) in
/-- The entry of the session after a run: it holds `v` and was last refreshed at `u`. The address
is still the first one if no refresh came too late. -/
structure RefreshedAt (key : SessionKey) (b : String) (first : TimedRpc) (rest : List TimedRpc)
    (db : TimedDb) (v : String) (u : ℕ) : Prop where
  served : u ∈ (first :: rest).map (·.time)
  entry : dbAfter gw (first :: rest) db (sessionKey cfg key) = some ⟨v, expiry u cfg.sessionTtl⟩
  within_iff : ∀ now, Within gw (Refreshes gw cfg (sessionKey cfg key)) cfg.sessionTtl now
    (first :: rest) db ↔ now < expiry u cfg.sessionTtl
  value : Refreshed gw cfg (Refreshes gw cfg (sessionKey cfg key)) key first rest db → v = b

/-- What a lookup at `now` finds. -/
theorem RefreshedAt.valueAt {v : String} {u : ℕ}
    (h : RefreshedAt gw cfg key b first rest db v u) (now : ℕ) :
    (dbAfter gw (first :: rest) db).valueAt now (sessionKey cfg key) =
      if now < expiry u cfg.sessionTtl then some v else none := by
  simp only [TimedDb.valueAt, h.entry]

/-- Time does not go back. -/
theorem StartsBound.le_last (h : StartsBound gw cfg key b first (rest ++ [step]) db) {u : ℕ}
    (hu : u ∈ (first :: rest).map (·.time)) : u ≤ step.time := by
  obtain ⟨x, hx, rfl⟩ := List.mem_map.mp hu
  exact (List.pairwise_append.mp h.ordered).2.2 x hx step (List.mem_singleton_self _)

variable (hstore : gw.router.store = RedisStore.store cfg)
include hstore

/-- The first RPC enters the binding. -/
theorem StartsBound.entry (h : StartsBound gw cfg key b first rest db) :
    Refreshes gw cfg (sessionKey cfg key) first db ∧
      first.after gw db (sessionKey cfg key) = some ⟨b, expiry first.time cfg.sessionTtl⟩ := by
  have hrefreshes : Refreshes gw cfg (sessionKey cfg key) first db :=
    ⟨key, ⟨b, h.routed⟩, h.byTable, h.named, rfl⟩
  have hheld : ¬ ReleasesName gw cfg (sessionKey cfg key) first db := by
    rintro ⟨key', hreleases, -⟩
    obtain ⟨addr, hto⟩ := hreleases.routedOf
    obtain ⟨rfl, -⟩ := hto.unique h.routed
    exact h.held hreleases
  rcases entry_step hstore key hheld with ⟨key', addr, hto, -, hentry, -⟩ | ⟨hnot, -⟩
  · obtain ⟨-, rfl⟩ := hto.unique h.routed
    exact ⟨hrefreshes, hentry⟩
  · exact absurd hrefreshes hnot

/-- After the first RPC, the entry was refreshed by it. -/
theorem StartsBound.refreshedAt (h : StartsBound gw cfg key b first [] db) :
    RefreshedAt gw cfg key b first [] db b first.time := by
  obtain ⟨hrefreshes, hentry⟩ := h.entry hstore
  refine ⟨List.mem_singleton_self _, hentry, fun now => ?_, fun _ => rfl⟩
  refine (within_snoc _ _ _ [] first).trans ?_
  constructor
  · rintro (⟨pre, step, post, hsteps, -⟩ | ⟨-, hnow⟩)
    · exact absurd hsteps (nil_ne_split pre step post)
    · exact hnow
  · exact fun hnow => .inr ⟨hrefreshes, hnow⟩

/-- One more RPC. -/
theorem RefreshedAt.snoc {v : String} {u : ℕ} (h : RefreshedAt gw cfg key b first rest db v u)
    (hle : u ≤ step.time)
    (hheld : ¬ ReleasesName gw cfg (sessionKey cfg key) step (dbAfter gw (first :: rest) db)) :
    ∃ v' u', RefreshedAt gw cfg key b first (rest ++ [step]) db v' u' := by
  rcases entry_step hstore key hheld with
    ⟨key', addr, -, hrefreshes, hnext, hlive⟩ | ⟨hnot, hsame⟩
  · -- A refresh: the entry now expires later than before.
    refine ⟨addr, step.time, by simp, ?_, fun now => ?_, fun hrefreshed => ?_⟩
    · rw [← List.cons_append, dbAfter_snoc]
      exact hnext
    · rw [← List.cons_append, within_snoc, h.within_iff]
      simp only [hrefreshes, true_and, expiry]
      omega
    · obtain ⟨hinit, hstep⟩ := (each_snoc _ first rest step).mp hrefreshed
      have hbefore := (h.within_iff step.time).mp (hstep hrefreshes)
      rw [← h.value hinit]
      exact hlive v (by rw [h.valueAt, if_pos hbefore])
  · refine ⟨v, u, ?_, ?_, fun now => ?_, fun hrefreshed => h.value hrefreshed.take⟩
    · rw [← List.cons_append, List.map_append]
      exact List.mem_append_left _ h.served
    · rw [← List.cons_append, dbAfter_snoc]
      exact hsame.trans h.entry
    · rw [← List.cons_append, within_snoc, h.within_iff]
      simp only [hnot, false_and, or_false]

/-- **The entry of a session.** In a run without a release under its name, the entry is there and
expires `session_ttl` after the last refresh. -/
theorem entry_history : ∀ rest : List TimedRpc, StartsBound gw cfg key b first rest db →
    Each gw (fun _ step db' => ¬ ReleasesName gw cfg (sessionKey cfg key) step db') first rest db →
    ∃ v u, RefreshedAt gw cfg key b first rest db v u := by
  intro rest
  induction rest using List.reverseRecOn with
  | nil => exact fun hrun _ => ⟨b, first.time, hrun.refreshedAt hstore⟩
  | append_singleton rest step ih =>
    intro hrun hheld
    obtain ⟨v, u, h⟩ := ih hrun.take hheld.take
    exact h.snoc hstore (hrun.le_last h.served) ((each_snoc _ first rest step).mp hheld).2

/-- The entry is live while the last refresh is less than `session_ttl` ago. -/
theorem live_iff (hrun : StartsBound gw cfg key b first rest db)
    (hheld : Each gw (fun _ step db' => ¬ ReleasesName gw cfg (sessionKey cfg key) step db')
      first rest db) (now : ℕ) :
    ((dbAfter gw (first :: rest) db).valueAt now (sessionKey cfg key)).isSome = true ↔
      Within gw (Refreshes gw cfg (sessionKey cfg key)) cfg.sessionTtl now (first :: rest) db := by
  obtain ⟨v, u, h⟩ := entry_history hstore rest hrun hheld
  rw [h.within_iff, h.valueAt]
  by_cases hnow : now < expiry u cfg.sessionTtl
  · simp [hnow]
  · simp [hnow]

/-- **Sessions that are refreshed in time stay bound.** If nothing is released under the name of
the session, and every routed RPC of the session, or under its name by the session table, comes
less than `session_ttl` after one that was routed by the session table under that name, then the
session stays bound. -/
theorem staysBound_of_refreshed (hrun : StartsBound gw cfg key b first rest db)
    (hheld : Each gw (fun _ step db' => ¬ ReleasesName gw cfg (sessionKey cfg key) step db')
      first rest db)
    (hrefreshed : Refreshed gw cfg (fun step db' => RoutedOf gw key step db' ∨
      Refreshes gw cfg (sessionKey cfg key) step db') key first rest db) :
    StaysBound gw cfg key b first rest db := by
  intro pre step post hrest hrouted
  have hlast := hrefreshed pre step post hrest (.inl hrouted)
  subst hrest
  obtain ⟨v, u, h⟩ := entry_history hstore pre hrun.take hheld.take
  have hb : v = b := h.value fun pre' step' post' hpre hrefreshes =>
    hrefreshed.take pre' step' post' hpre (.inr hrefreshes)
  rw [h.valueAt, if_pos ((h.within_iff step.time).mp hlast), hb]

/-- **Active sessions.** A session that stays unreleased stays bound, to the same backend, at every
routed RPC of it if each of them, and each RPC that is routed by the session table under its Redis
name, comes less than `session_ttl` after one of the latter, and no other session with that name is
released. If no other session of the run has that name, it stays bound if and only if each of its
routed RPCs comes less than `session_ttl` after one that was routed by the session table. -/
theorem staysBound_iff (hrun : StartsBound gw cfg key b first rest db)
    (hkept : Each gw (fun _ step db' => ¬ ReleasesKey gw key step db') first rest db) :
    (Each gw (fun _ step db' => ∀ key', key' ≠ key → sessionKey cfg key' = sessionKey cfg key →
        ¬ ReleasesKey gw key' step db') first rest db →
      Refreshed gw cfg (fun step db' => RoutedOf gw key step db' ∨
        Refreshes gw cfg (sessionKey cfg key) step db') key first rest db →
      StaysBound gw cfg key b first rest db) ∧
    (Each gw (fun _ step db' => ∀ key', key' ≠ key → sessionKey cfg key' = sessionKey cfg key →
        ¬ RoutedOf gw key' step db') first rest db →
      (StaysBound gw cfg key b first rest db ↔
        Refreshed gw cfg (RoutedOf gw key) key first rest db)) := by
  -- Nothing is released under the name if the session is not, and no other one of the name is.
  have hname : Each gw (fun _ step db' => ∀ key', key' ≠ key →
        sessionKey cfg key' = sessionKey cfg key → ¬ ReleasesKey gw key' step db') first rest db →
      Each gw (fun _ step db' => ¬ ReleasesName gw cfg (sessionKey cfg key) step db')
        first rest db := by
    rintro hothers pre step post hrest ⟨key', hreleases, hsame⟩
    by_cases hkey : key' = key
    · subst hkey
      exact hkept pre step post hrest hreleases
    · exact hothers pre step post hrest key' hkey hsame hreleases
  refine ⟨fun hothers hrefreshed => staysBound_of_refreshed hstore hrun (hname hothers) hrefreshed,
    fun halone => ?_⟩
  have hheld := hname fun pre step post hrest key' hkey hsame hreleases =>
    halone pre step post hrest key' hkey hsame hreleases.routedOf
  constructor
  · intro hstays pre step post hrest hrouted
    have hlive := hstays pre step post hrest hrouted
    subst hrest
    exact (live_iff hstore hrun.take hheld.take step.time).mp (by rw [hlive]; rfl)
  · intro hrefreshed
    refine staysBound_of_refreshed hstore hrun hheld ?_
    rintro pre step post hrest (hrouted | ⟨key', hrouted, -, -, hsame⟩)
    · exact hrefreshed pre step post hrest hrouted
    · by_cases hkey : key' = key
      · subst hkey
        exact hrefreshed pre step post hrest hrouted
      · exact absurd hrouted (halone pre step post hrest key' hkey hsame)

end

/-! ### A client that only reattaches -/

namespace Expiry

/-- Both times to live are a minute. -/
def cfg : RedisStoreConfig := ⟨"scg", 60, 60⟩

/-- One pool and the Redis store. -/
def gateway : Gateway RedisSig := ⟨⟨.single 0, RedisStore.store cfg⟩, .default, false, .default⟩

def caller : Identity := Identity.user "alice"

def key : SessionKey := ⟨"default", "alice", "sess-1"⟩

/-- A request at a time in seconds, while the pool picks `addr`. -/
def request (seconds : ℕ) (addr : String) (req : Request) : TimedRpc :=
  ⟨1000 * seconds, Env.healthy caller addr, .request (fun _ => none) req⟩

/-- An `ExecutePlan` of `op-1` on `sess-1`. -/
def execute : TimedRpc :=
  request 0 "be-a:15002" (.executePlan ⟨"sess-1", none, ⟨some "op-1", []⟩⟩)

/-- A `ReattachExecute` of `op-1`, 40 seconds later. -/
def reattach : TimedRpc :=
  request 40 "be-b:15002" (.reattachExecute ⟨"sess-1", none, ⟨"op-1", []⟩⟩)

/-- A `Config` call on `sess-1`. The pool picks another address now. -/
def config (seconds : ℕ) : TimedRpc := request seconds "be-b:15002" (.config ⟨"sess-1", none, []⟩)

/-- Redis before the first RPC. -/
def empty : TimedDb := fun _ => none

/-- The first `ExecutePlan` binds the session. -/
theorem startsBound {rest : List TimedRpc}
    (hordered : (execute :: rest).Pairwise (·.time ≤ ·.time)) :
    StartsBound gateway cfg key "be-a:15002" execute rest empty where
  routed := ⟨caller, "default", "sess-1", rfl, rfl, rfl, by decide +kernel⟩
  byTable := nofun
  named := rfl
  held := not_releasesKey (by simp [execute, request])
  ordered := hordered

/-- The property at each of two later RPCs. -/
theorem each_pair {P : List TimedRpc → TimedRpc → TimedDb → Prop} {step step' : TimedRpc}
    (h : P [execute] step (dbAfter gateway [execute] empty))
    (h' : P [execute, step] step' (dbAfter gateway [execute, step] empty)) :
    Each gateway P execute [step, step'] empty :=
  (each_snoc P execute [step] step').mpr
    ⟨(each_snoc P execute [] step).mpr ⟨each_nil P execute, h⟩, h'⟩

end Expiry

section
open Expiry

/-- A session whose RPCs are all routed by the session table stays where it is. -/
theorem staysBound_configured :
    StaysBound gateway cfg key "be-a:15002" execute [config 40, config 80] empty := by
  have hrun : StartsBound gateway cfg key "be-a:15002" execute [config 40, config 80] empty :=
    startsBound (by decide)
  have hconfig : ∀ seconds key' db', ¬ ReleasesKey gateway key' (config seconds) db' :=
    fun _ _ _ => not_releasesKey (by simp [config, request])
  have hrefreshes : Refreshes gateway cfg (sessionKey cfg key) (config 40)
      (dbAfter gateway [execute] empty) :=
    ⟨key, ⟨"be-a:15002", caller, "default", "sess-1", rfl, rfl, rfl, by decide +kernel⟩, nofun, rfl,
      rfl⟩
  refine (staysBound_iff rfl hrun (each_pair (hconfig 40 key _) (hconfig 80 key _))).1
    (each_pair (fun key' _ _ => hconfig 40 key' _) fun key' _ _ => hconfig 80 key' _)
    (each_pair (fun _ => ?_) fun _ => ?_)
  · exact ⟨[], execute, [], rfl, ⟨key, ⟨_, hrun.routed⟩, nofun, rfl, rfl⟩, by decide⟩
  · exact ⟨[execute], config 40, [], rfl, hrefreshes, by decide⟩

/-- The client sends an RPC of its session every 40 seconds. The second one is routed by its
operation, so that after a minute the session is gone, and the third one goes elsewhere. -/
theorem activeSession_loses_binding :
    StartsBound gateway cfg key "be-a:15002" execute [reattach, config 80] empty ∧
      Each gateway (fun _ step db' => ¬ ReleasesKey gateway key step db') execute
        [reattach, config 80] empty ∧
      Active gateway cfg key execute [reattach, config 80] empty ∧
      RoutedTo gateway key "be-a:15002" reattach (dbAfter gateway [execute] empty) ∧
      RoutedTo gateway key "be-b:15002" (config 80) (dbAfter gateway [execute, reattach] empty) ∧
      ¬ StaysBound gateway cfg key "be-a:15002" execute [reattach, config 80] empty := by
  -- Each RPC comes within the lifetime of the one before, but the one in the middle is routed by
  -- its operation and does not refresh the entry.
  have hrun : StartsBound gateway cfg key "be-a:15002" execute [reattach, config 80] empty :=
    startsBound (by decide)
  have hreattach : RoutedTo gateway key "be-a:15002" reattach (dbAfter gateway [execute] empty) :=
    ⟨caller, "default", "sess-1", rfl, rfl, rfl, by decide +kernel⟩
  have hconfig : RoutedTo gateway key "be-b:15002" (config 80)
      (dbAfter gateway [execute, reattach] empty) :=
    ⟨caller, "default", "sess-1", rfl, rfl, rfl, by decide +kernel⟩
  -- So the entry has expired when the third one comes.
  have hexpired : (dbAfter gateway [execute, reattach] empty).valueAt (config 80).time
      (sessionKey cfg key) = none := by decide +kernel
  refine ⟨hrun, each_pair ?_ ?_, each_pair (fun _ => ?_) fun _ => ?_, hreattach, hconfig, ?_⟩
  · exact not_releasesKey (by simp [reattach, request])
  · exact not_releasesKey (by simp [config, request])
  · exact ⟨[], execute, [], rfl, ⟨_, hrun.routed⟩, by decide⟩
  · exact ⟨[execute], reattach, [], rfl, ⟨_, hreattach⟩, by decide⟩
  · intro hstays
    have hlive := hstays [reattach] (config 80) [] rfl ⟨_, hconfig⟩
    cases hexpired.symm.trans hlive

end

end SparkGateway.Proofs.Handler
