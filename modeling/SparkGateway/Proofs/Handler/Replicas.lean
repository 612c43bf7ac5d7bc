import SparkGateway.Lib.Schedule
import SparkGateway.Proofs.Handler.Contract
import SparkGateway.Proofs.Handler.StoreSubst
import SparkGateway.Proofs.Routing.StoreRefinement

/-!
# `SparkGateway.Proofs.Handler.Replicas`: replicas on Redis are one gateway in memory

Replicas that share a `RedisStore` handle RPCs at the same time. A `RedisStore` operation is one or
two Redis commands, and the commands of other replicas come between them. `replicas_transparent`
says that none of this is seen from outside. Take any interleaving of any number of handlers, on any
replicas. Then the same handlers have an interleaving on a `MemoryStore`, in which each store
operation is a single step, with the same calls, picks, audit events and answers in the same order,
and with the same results.

Two things are assumed and one is given up. Redis answers every command and nothing expires. The
sessions that callers name have different texts, since otherwise two sessions share an entry.
And `bind_session_if_absent` reads the winner in a second command: if the session is released in
between, it returns the address of its own that is not stored. `lossyMemory` adds this behavior to
the in-process store, but only for the sessions whose `ReleaseSession` a backend has answered with
Ok in the run.
-/

set_option autoImplicit false

namespace SparkGateway.Proofs.Handler

open SparkGateway.Lib
open SparkGateway.Spec
open SparkGateway.Proofs.Routing

/-! ### The two stores -/

/-- The operations of the in-process store, as `RedisStore` does them. -/
def redisOp (cfg : RedisStoreConfig) : (c : MemoryCmd) → Prog RedisSig (MemoryCmd.Reply c)
  | .lookupSession key => RedisStore.lookupSession cfg key
  | .bindSessionIfAbsent key backend => RedisStore.bindSessionIfAbsent cfg key backend
  | .forgetSession key => RedisStore.forgetSession cfg key
  | .lookupOp opId => RedisStore.lookupOp cfg opId
  | .bindOp opId backend => RedisStore.bindOp cfg opId backend
  | .forgetOp opId => RedisStore.forgetOp cfg opId

/-- The gateway with its bindings in Redis. -/
def onRedis (cfg : RedisStoreConfig) (gw : Gateway MemorySig) : Gateway RedisSig :=
  ⟨⟨gw.router.tenants, RedisStore.store cfg⟩, gw.tenantResolver, gw.rateLimited, gw.audit⟩

/-- The in-memory store with each operation replaced by its Redis commands is the Redis store. -/
theorem substStore_redisOp (cfg : RedisStoreConfig) :
    substStore (redisOp cfg) MemoryStore.store = RedisStore.store cfg := by
  have hop : ∀ c, (Prog.perform (S := MemorySig) c).subst (redisOp cfg) = redisOp cfg c :=
    Prog.subst_perform
  unfold substStore MemoryStore.store RedisStore.store
  -- The operations of one command are the same already.
  congr 1
  · exact funext fun key => hop (.lookupSession key)
  · exact funext fun key => funext fun backend => hop (.bindSessionIfAbsent key backend)
  · exact funext fun opId => hop (.lookupOp opId)

/-- A handler on Redis is the handler in memory with the operations of `RedisStore`. -/
theorem handle_onRedis (cfg : RedisStoreConfig) {gw : Gateway MemorySig}
    (hstore : gw.router.store = MemoryStore.store) (rpc : Rpc) :
    (onRedis cfg gw).handle rpc = (gw.handle rpc).subst (gatewaySubst (redisOp cfg)) := by
  have hgw : onRedis cfg gw = substGateway (redisOp cfg) gw := by
    unfold onRedis substGateway substRouter
    rw [hstore, substStore_redisOp]
  rw [hgw, handle_subst]

/-- A healthy Redis server on which nothing expires. -/
def healthyRedis : Semantics RedisSig RedisStore.Db :=
  Semantics.ofHandler RedisStore.apply fun _ _ => False

/-- The in-process store. A bind of an unbound session may return its address without storing it, if
the session is one of those in `released`. -/
def lossyMemory (released : Set SessionKey) : Semantics MemorySig MemoryStore.State where
  cmd
    | .bindSessionIfAbsent key backend, s, r, s' =>
        MemoryStore.apply (.bindSessionIfAbsent key backend) s = (r, s') ∨
          key ∈ released ∧ s.sessions key = none ∧ r = backend ∧ s' = s
    | c, s, r, s' => MemoryStore.apply c s = (r, s')
  env _ _ := False

/-- The meaning of the commands of a handler: those of the store as given, any answer to the
others. -/
def overStore {S : Sig} {σ : Type} (M : Semantics S σ) : Semantics (GatewaySig S) σ :=
  ((Semantics.arbitrary PoolSig σ).sum M).sum (Semantics.arbitrary ProxySig σ)

/-- What is seen of a handler: all but its store. -/
def outward {S : Sig} : Event (GatewaySig S) → Option (Event (PoolSig.sum ProxySig))
  | ⟨.inl (.inl c), r⟩ => some ⟨.inl c, r⟩
  | ⟨.inl (.inr _), _⟩ => none
  | ⟨.inr c, r⟩ => some ⟨.inr c, r⟩

/-! ### The levels -/

section
variable (cfg : RedisStoreConfig) (released K : Set SessionKey)

/-- The database represents the map, and only sessions of `K` are bound. -/
structure Reflects (m : MemoryStore.State) (db : RedisStore.Db) : Prop where
  represents : Represents cfg m db
  within : ∀ key, m.sessions key ≠ none → key ∈ K

/-- The bindings of the sessions of `K` that are not released stay. -/
def KeepsBindings (db db' : RedisStore.Db) : Prop :=
  ∀ key ∈ K, key ∉ released → db (RedisStore.sessionKey cfg key) ≠ none →
    db' (RedisStore.sessionKey cfg key) ≠ none

/-- The operations of one store are the commands of the other. -/
def storeLevels : Levels MemorySig RedisSig MemoryStore.State RedisStore.Db
    (Event (PoolSig.sum ProxySig)) where
  upper := lossyMemory released
  lower := healthyRedis
  rel := Reflects cfg K
  rely := KeepsBindings cfg released K
  seenUpper _ := none
  seenLower _ := none

/-- The same for whole handlers. -/
def gatewayLevels : Levels (GatewaySig MemorySig) (GatewaySig RedisSig) MemoryStore.State
    RedisStore.Db (Event (PoolSig.sum ProxySig)) where
  upper := overStore (lossyMemory released)
  lower := overStore healthyRedis
  rel := Reflects cfg K
  rely := KeepsBindings cfg released K
  seenUpper := outward
  seenLower := outward

variable {cfg released K}

/-- Nothing is lost where nothing changes. -/
theorem keepsBindings_refl (db : RedisStore.Db) : KeepsBindings cfg released K db db :=
  fun _ _ _ h => h

/-- Two steps that keep the bindings keep them together. -/
theorem keepsBindings_trans (db db' db'' : RedisStore.Db) (h : KeepsBindings cfg released K db db')
    (h' : KeepsBindings cfg released K db' db'') : KeepsBindings cfg released K db db'' :=
  fun key hkey hkept hbound => h' key hkey hkept (h key hkey hkept hbound)

/-- An entry that is written is not taken away. -/
theorem keepsBindings_update (db : RedisStore.Db) (name v : String) :
    KeepsBindings cfg released K db (Function.update db name (some v)) := by
  intro key _ _ hbound
  by_cases hname : RedisStore.sessionKey cfg key = name
  · simp [hname]
  · rwa [Function.update_of_ne hname]

/-- Writing the operation index keeps the bindings of the sessions. -/
theorem keepsBindings_op (db : RedisStore.Db) (opId : String) (v : Option String) :
    KeepsBindings cfg released K db (Function.update db (RedisStore.opKey cfg opId) v) := by
  intro key _ _ hbound
  rwa [Function.update_of_ne (RedisStore.sessionKey_ne_opKey cfg key opId)]

/-- A release takes away the binding of its own session only. -/
theorem keepsBindings_release (hK : Set.InjOn sessionText K) {key : SessionKey} (hkey : key ∈ K)
    (hreleased : key ∈ released) (db : RedisStore.Db) :
    KeepsBindings cfg released K db
      (Function.update db (RedisStore.sessionKey cfg key) none) := by
  intro key' hkey' hkept hbound
  have hname : RedisStore.sessionKey cfg key' ≠ RedisStore.sessionKey cfg key := by
    intro hname
    have hsame : key' = key := hK hkey' hkey ((sessionKey_eq_iff cfg key' key).mp hname)
    exact hkept (hsame ▸ hreleased)
  rwa [Function.update_of_ne hname]

/-! ### The operations -/

section
variable {m : MemoryStore.State} {db : RedisStore.Db} {key : SessionKey}

/-- The other sessions with the text of a session of `K` are not bound. -/
theorem Reflects.alone (hK : Set.InjOn sessionText K) (h : Reflects cfg K m db) (hkey : key ∈ K) :
    ∀ key', key' ≠ key → sessionText key' = sessionText key → m.sessions key' = none := by
  intro key' hne htext
  by_contra hbound
  exact hne (hK (h.within key' hbound) hkey htext)

/-- The entry of a session in Redis is its entry in the tables. -/
theorem Reflects.lookup (hK : Set.InjOn sessionText K) (h : Reflects cfg K m db) (hkey : key ∈ K) :
    db (RedisStore.sessionKey cfg key) = m.sessions key :=
  h.represents.lookup (h.alone hK hkey)

/-- Writing a session's entry in both keeps them in step. -/
theorem Reflects.update (hK : Set.InjOn sessionText K) (h : Reflects cfg K m db) (hkey : key ∈ K)
    (v : Option String) :
    Reflects cfg K { m with sessions := Function.update m.sessions key v }
      (Function.update db (RedisStore.sessionKey cfg key) v) where
  represents := h.represents.update (h.alone hK hkey) v
  within key' hbound := by
    by_cases heq : key' = key
    · exact heq ▸ hkey
    · refine h.within key' fun hnone => hbound ?_
      exact (Function.update_of_ne heq v m.sessions).trans hnone

/-- Writing an operation's entry in both keeps them in step. -/
theorem Reflects.updateOp (h : Reflects cfg K m db) (opId : String) (v : Option String) :
    Reflects cfg K { m with ops := Function.update m.ops opId v }
      (Function.update db (RedisStore.opKey cfg opId) v) :=
  ⟨h.represents.updateOp opId v, h.within⟩

end

section
variable {A : Event (PoolSig.sum ProxySig) → Prop}

/-- A lookup takes effect with its `GET`. The `EXPIRE` after it changes nothing. -/
theorem lookupAndRefresh_implements {c : MemoryCmd}
    {g : MemoryCmd.Reply c → Prog MemorySig (Option String)} (name : String) (ttl : ℕ)
    (hpoint : ∀ m db, Reflects cfg K m db →
      ∃ r, (lossyMemory released).cmd c m r m ∧ g r = .ret (db name)) (db : RedisStore.Db) :
    (storeLevels cfg released K).Implements A (RedisStore.lookupAndRefresh name ttl)
      (.step (S := MemorySig) c g) db := by
  intro db₁ _ m r db₂ hrel hget _
  obtain ⟨rfl, rfl⟩ := Prod.mk.inj hget
  obtain ⟨r, hcmd, hret⟩ := hpoint m db₁ hrel
  refine ⟨keepsBindings_refl db₁, .inr ⟨c, g, r, m, rfl, hcmd, rfl, hrel, ?_⟩⟩
  rw [hret]
  cases db₁ name with
  | none => rfl
  | some v =>
    intro db₃ _ m' r' db₄ hrel' hexpire _
    obtain ⟨rfl, rfl⟩ := Prod.mk.inj hexpire
    exact ⟨keepsBindings_refl db₃, .inl ⟨rfl, hrel', rfl⟩⟩

/-- A write is one command. -/
theorem write_implements {c : MemoryCmd} {g : MemoryCmd.Reply c → Prog MemorySig Unit}
    {d : RedisCmd} (hg : ∀ r, g r = .ret ())
    (hpoint : ∀ m db, Reflects cfg K m db →
      KeepsBindings cfg released K db (RedisStore.apply d db).2 ∧
        ∃ r m', (lossyMemory released).cmd c m r m' ∧ Reflects cfg K m' (RedisStore.apply d db).2)
    (db : RedisStore.Db) :
    (storeLevels cfg released K).Implements A (.step (S := RedisSig) d fun _ => .ret ())
      (.step (S := MemorySig) c g) db := by
  intro db₁ _ m r db₂ hrel hwrite _
  obtain ⟨rfl, rfl⟩ := Prod.mk.inj hwrite
  obtain ⟨hkeeps, r, m', hcmd, hrel'⟩ := hpoint m db₁ hrel
  exact ⟨hkeeps, .inr ⟨c, g, r, m', rfl, hcmd, rfl, hrel', hg r⟩⟩

/-- `bind_session_if_absent` takes effect with its `SET NX`, or with the `GET` of the winner. -/
theorem bind_implements (hK : Set.InjOn sessionText K) {key : SessionKey} (hkey : key ∈ K)
    (backend : String) (db : RedisStore.Db) :
    (storeLevels cfg released K).Implements A (RedisStore.bindSessionIfAbsent cfg key backend)
      (Prog.perform (S := MemorySig) (.bindSessionIfAbsent key backend)) db := by
  intro db₁ _ m r db₂ hrel hset _
  have hlookup := hrel.lookup hK hkey
  cases hdb : db₁ (RedisStore.sessionKey cfg key) with
  | none =>
    -- The `SET NX` wins, and the operation is done.
    obtain ⟨rfl, rfl⟩ := Prod.mk.inj ((RedisStore.apply_setNxEx_of_none hdb _ _).symm.trans hset)
    have hm : m.sessions key = none := hlookup.symm.trans hdb
    exact ⟨keepsBindings_update _ _ _, .inr ⟨.bindSessionIfAbsent key backend, .ret, backend, _,
      rfl, .inl (MemoryStore.apply_bind_of_none hm backend), rfl, hrel.update hK hkey _,
      Levels.implements_ret backend _⟩⟩
  | some winner =>
    obtain ⟨rfl, rfl⟩ := Prod.mk.inj ((RedisStore.apply_setNxEx_of_some hdb _ _).symm.trans hset)
    refine ⟨keepsBindings_refl db₁, .inl ⟨rfl, hrel, ?_⟩⟩
    -- The refused bind has not taken effect yet. What it returns is what its `GET` finds.
    intro db₃ hkeeps m' r' db₄ hrel' hget _
    obtain ⟨rfl, rfl⟩ := Prod.mk.inj hget
    have hlookup' := hrel'.lookup hK hkey
    refine ⟨keepsBindings_refl db₃, .inr ?_⟩
    cases hdb' : db₃ (RedisStore.sessionKey cfg key) with
    | some existing =>
      have hm : m'.sessions key = some existing := hlookup'.symm.trans hdb'
      exact ⟨.bindSessionIfAbsent key backend, .ret, existing, m', rfl,
        .inl (MemoryStore.apply_bind_of_some hm backend), rfl, hrel',
        Levels.implements_ret existing _⟩
    | none =>
      -- The winner's binding was released between the two commands.
      have hm : m'.sessions key = none := hlookup'.symm.trans hdb'
      have hreleased : key ∈ released := by
        by_contra hkept
        exact hkeeps key hkey hkept (by simp [hdb]) hdb'
      exact ⟨.bindSessionIfAbsent key backend, .ret, backend, m', rfl,
        .inr ⟨hreleased, hm, rfl, rfl⟩, rfl, hrel', Levels.implements_ret backend _⟩

variable (released K) in
/-- The commands that can be simulated: on a session of `K`, and the releases of `released`. -/
def Simulable : MemoryCmd → Prop
  | .lookupSession key => key ∈ K
  | .bindSessionIfAbsent key _ => key ∈ K
  | .forgetSession key => key ∈ K ∧ key ∈ released
  | _ => True

/-- Each operation of `RedisStore` takes effect at one point. -/
theorem redisOp_implements (hK : Set.InjOn sessionText K) {c : MemoryCmd}
    (hc : Simulable released K c) (db : RedisStore.Db) :
    (storeLevels cfg released K).Implements A (redisOp cfg c)
      (Prog.perform (S := MemorySig) c) db := by
  -- Both lookups take effect with their `GET`, and every write with its one command.
  cases c with
  | lookupSession key =>
    refine lookupAndRefresh_implements (c := .lookupSession key) (g := .ret) _ _
      (fun m db hrel => ⟨m.sessions key, rfl, ?_⟩) db
    rw [hrel.lookup hK hc]
  | bindSessionIfAbsent key backend => exact bind_implements hK hc backend db
  | forgetSession key =>
    refine write_implements (fun _ => rfl) (fun m db hrel => ?_) db
    exact ⟨keepsBindings_release hK hc.1 hc.2 db, (), _, rfl, hrel.update hK hc.1 none⟩
  | lookupOp opId =>
    refine lookupAndRefresh_implements (c := .lookupOp opId) (g := .ret) _ _
      (fun m db hrel => ⟨m.ops opId, rfl, ?_⟩) db
    rw [hrel.represents.ops opId]
  | bindOp opId backend =>
    refine write_implements (fun _ => rfl) (fun m db hrel => ?_) db
    exact ⟨keepsBindings_op db opId _, (), _, rfl, hrel.updateOp opId _⟩
  | forgetOp opId =>
    refine write_implements (fun _ => rfl) (fun m db hrel => ?_) db
    exact ⟨keepsBindings_op db opId none, (), _, rfl, hrel.updateOp opId none⟩

/-! ### The handlers -/

/-- A program of the store, inside a handler. -/
theorem store_implements {α : Type} {q : Prog RedisSig α} {p : Prog MemorySig α}
    {db : RedisStore.Db} (h : (storeLevels cfg released K).Implements A q p db) :
    (gatewayLevels cfg released K).Implements A ((q.inr (S := PoolSig)).inl (T := ProxySig))
      ((p.inr (S := PoolSig)).inl (T := ProxySig)) db := by
  induction q generalizing p db with
  | ret b =>
    obtain rfl : p = .ret b := h
    rfl
  | step d k ih =>
    intro db₁ hkeeps m r db₂ hrel hcmd _
    obtain ⟨hkeeps', hpoint⟩ := h db₁ hkeeps m r db₂ hrel hcmd fun v hv => nomatch hv
    refine ⟨hkeeps', ?_⟩
    rcases hpoint with ⟨_, hrel', hk⟩ | ⟨c, g, r', m', rfl, hup, _, hrel', hk⟩
    · exact .inl ⟨rfl, hrel', ih r hk⟩
    · exact .inr ⟨.inl (.inr c), fun r => ((g r).inr).inl, r', m', rfl, hup, rfl, hrel', ih r hk⟩

variable (released K) in
/-- The same for the commands of a handler. -/
def SimulableCmd : (GatewaySig MemorySig).Cmd → Prop
  | .inl (.inr c) => Simulable released K c
  | _ => True

/-- Every command of a handler is implemented by its Redis form. -/
theorem gatewayCmd_implements (hK : Set.InjOn sessionText K) {c : (GatewaySig MemorySig).Cmd}
    (hc : SimulableCmd released K c) (db : RedisStore.Db) :
    (gatewayLevels cfg released K).Implements A (gatewaySubst (redisOp cfg) c)
      (Prog.perform c) db := by
  rcases c with (c | c) | c
  -- A pick, and a command of the proxy, do not touch the store and are seen on both levels.
  · intro db₁ _ m r db₂ hrel hcmd _
    obtain rfl : db₂ = db₁ := hcmd
    exact ⟨keepsBindings_refl db₂, .inr ⟨.inl (.inl c), .ret, r, m, rfl, rfl, rfl, hrel,
      Levels.implements_ret r db₂⟩⟩
  · exact store_implements (redisOp_implements hK hc db)
  · intro db₁ _ m r db₂ hrel hcmd _
    obtain rfl : db₂ = db₁ := hcmd
    exact ⟨keepsBindings_refl db₂, .inr ⟨.inr c, .ret, r, m, rfl, rfl, rfl, hrel,
      Levels.implements_ret r db₂⟩⟩

end

end

/-! ### Whole runs -/

section
variable {ι : Type}

/-- The sessions that the authenticated callers of a run name. -/
def sessionsNamed (gw : ι → Gateway MemorySig) (rpc : ι → Rpc)
    (seen : List (ι × Event (PoolSig.sum ProxySig))) : Set SessionKey :=
  {key | ∃ i id tenant, (i, ⟨.inr (.authenticate (rpc i).metadata), .ok id⟩) ∈ seen ∧
    (gw i).tenantResolver.resolve (rpc i).metadata id = .ok tenant ∧
    keyOf (rpc i) id tenant = some key}

/-- The sessions that the authenticated callers of a run release: their `ReleaseSession` is answered
with Ok. -/
def sessionsReleased (gw : ι → Gateway MemorySig) (rpc : ι → Rpc)
    (seen : List (ι × Event (PoolSig.sum ProxySig))) : Set SessionKey :=
  {key | ∃ i id tenant md m addr rid resp,
    (i, ⟨.inr (.authenticate (rpc i).metadata), .ok id⟩) ∈ seen ∧
    (gw i).tenantResolver.resolve (rpc i).metadata id = .ok tenant ∧
    keyOf (rpc i) id tenant = some key ∧ rpc i = .request md (.releaseSession m) ∧
    (i, ⟨.inr (.call addr rid (.releaseSession (m.stamp id))), .ok resp⟩) ∈ seen}

/-- A handler names only sessions of its caller, and forgets one only if that is its RPC and the
backend has released it. The answers to the handler are those that are seen. -/
theorem handle_simulable {cfg : RedisStoreConfig} {gw : ι → Gateway MemorySig} {rpc : ι → Rpc}
    {seen : List (ι × Event (PoolSig.sum ProxySig))} {i : ι}
    (hstore : (gw i).router.store = MemoryStore.store) :
    ((gw i).handle (rpc i)).Obeys
      ((gatewayLevels cfg (sessionsReleased gw rpc seen) (sessionsNamed gw rpc seen)).Assumed
        fun v => (i, v) ∈ seen)
      (fun _ c => SimulableCmd (sessionsReleased gw rpc seen) (sessionsNamed gw rpc seen) c)
      (Settled (gw i) (rpc i)) [] := by
  refine ((handle_contract hstore).assuming (fun e he => nomatch he)).weaken ?_
  rintro es ((c | c) | c) ⟨hassumed, hcontract⟩
  · trivial
  · -- The caller was admitted, so its session is one of those that are named.
    have hown : ∃ id tenant, Admitted (gw i) (rpc i) es id tenant ∧
        OwnCmd (gw i) (rpc i) es id tenant (.inl (.inr c)) := by
      rcases hcontract.unaudited (fun event heq => nomatch heq) with h | ⟨_, _, _, h⟩ | h
      · exact h.elim
      · cases h
      · exact h
    obtain ⟨id, tenant, hadm, hcmd⟩ := hown
    have hauth := hassumed _ hadm.authenticated _ rfl
    have hmem : ∀ key, keyOf (rpc i) id tenant = some key → key ∈ sessionsNamed gw rpc seen :=
      fun key hkey => ⟨i, id, tenant, hauth, hadm.resolved, hkey⟩
    cases c with
    | lookupSession key => exact hmem key hcmd.1
    | bindSessionIfAbsent key backend => exact hmem key hcmd.1
    | forgetSession key =>
      obtain ⟨hkey, md, m, addr, rid, resp, hrpc, -, hcall⟩ := hcmd
      exact ⟨hmem key hkey, i, id, tenant, md, m, addr, rid, resp, hauth, hadm.resolved, hkey,
        hrpc, hassumed _ hcall _ rfl⟩
    | lookupOp opId => trivial
    | bindOp opId backend => trivial
    | forgetOp opId => trivial
  · trivial

/-- **Replicas are transparent.** What is seen of handlers on replicas that share a Redis database
is seen of the same handlers on one in-process store, with the same results, and at the end the
database represents the store. The store may lose a binding of a session that is released in the
run, and no other. -/
theorem replicas_transparent [DecidableEq ι] (cfg : RedisStoreConfig) (gw : ι → Gateway MemorySig)
    (hstore : ∀ i, (gw i).router.store = MemoryStore.store) (rpc : ι → Rpc)
    {t : List (Record (GatewaySig RedisSig) RedisStore.Db ι)}
    {c : Config (GatewaySig RedisSig) RedisStore.Db ι (Except Status Response)}
    (hrun : Run (overStore healthyRedis) ⟨emptyDb, fun i => (onRedis cfg (gw i)).handle (rpc i)⟩
      t c)
    (hnames : Set.InjOn sessionText (sessionsNamed gw rpc (observed outward t))) :
    ∃ t' c', Run (overStore (lossyMemory (sessionsReleased gw rpc (observed outward t))))
        ⟨MemoryStore.new, fun i => (gw i).handle (rpc i)⟩ t' c' ∧
      observed outward t' = observed outward t ∧
      (∀ i result, c.thread i = .ret result → c'.thread i = .ret result) ∧
      Represents cfg c'.shared c.shared := by
  -- Each handler over Redis implements the one over the tables, as long as it stays with the
  -- sessions that it names.
  have hstart : ∀ i, (gatewayLevels cfg (sessionsReleased gw rpc (observed outward t))
      (sessionsNamed gw rpc (observed outward t))).Implements
      (fun v => (i, v) ∈ observed outward t)
      ((onRedis cfg (gw i)).handle (rpc i)) ((gw i).handle (rpc i)) emptyDb := by
    intro i
    rw [handle_onRedis cfg (hstore i)]
    exact Levels.implements_subst (fun _ c db hc => gatewayCmd_implements hnames hc db)
      (handle_simulable (hstore i))
  -- Both start empty.
  have hempty : Reflects cfg (sessionsNamed gw rpc (observed outward t)) MemoryStore.new emptyDb :=
    ⟨represents_empty cfg, fun _ hbound => absurd rfl hbound⟩
  obtain ⟨t', c', hrun', hrel, hobs, hthread⟩ :=
    Run.implements (L := gatewayLevels cfg (sessionsReleased gw rpc (observed outward t))
        (sessionsNamed gw rpc (observed outward t)))
      keepsBindings_refl keepsBindings_trans (fun _ _ _ _ henv => by
        rcases henv with (h | h) | h <;> exact h.elim) hempty hstart hrun
      (fun _ _ hv => hv)
  refine ⟨t', c', hrun', hobs, fun i result hret => ?_, hrel.represents⟩
  have hi := hthread i
  rw [hret] at hi
  exact hi

end

namespace TwoReplicas

/-- Two replicas get a call of one session at the same time, and their pools pick different
backends. -/
def gateway (_ : Bool) : Gateway MemorySig := .inProcess (.single 0)

def rpc (_ : Bool) : Rpc := .request (fun _ => none) (.config ⟨"sess-1", none, []⟩)

/-- Each replica offers an address of its own. -/
def handler (i : Bool) : Handler (GatewaySig RedisSig) RedisStore.Db :=
  gatewayHandler (.healthy (.user "alice") (if i then "be-a:15002" else "be-b:15002"))
    RedisStore.apply

/-- Two replicas over an empty Redis. -/
def start : Config (GatewaySig RedisSig) RedisStore.Db Bool (Except Status Response) :=
  ⟨emptyDb, fun i => (onRedis .default (gateway i)).handle (rpc i)⟩

/-- In turns: both look the session up before one of them binds it. -/
def turns : List Bool := (List.replicate 12 [true, false]).flatten

def records : List (Record (GatewaySig RedisSig) RedisStore.Db Bool) :=
  (schedule handler turns start).1

/-- The schedule is a run. -/
theorem run : Run (overStore healthyRedis) start records (schedule handler turns start).2 := by
  refine schedule_run (fun i c db => ?_) turns start
  rcases c with (c | c) | c
  · rfl
  · rfl
  · cases c <;> rfl

/-- Both calls are of alice's session. -/
theorem named : sessionsNamed gateway rpc (observed outward records)
    ⊆ {⟨"default", "alice", "sess-1"⟩} := by
  rintro key ⟨i, id, tenant, hseen, hresolve, hkey⟩
  obtain ⟨rec, hrec, ⟨(c | c) | c, r⟩, hact, houtward⟩ := mem_observed.mp hseen
  · cases houtward
  · cases houtward
  · cases houtward
    have hid : id = .user "alice" := Except.ok.inj (schedule_reply hrec hact)
    subst hid
    obtain rfl : "default" = tenant := Except.ok.inj hresolve
    exact (Option.some.inj hkey).symm

/-- None of them is a release. -/
theorem released (seen : List (Bool × Event (PoolSig.sum ProxySig))) :
    sessionsReleased gateway rpc seen = ∅ := by
  refine Set.eq_empty_of_forall_notMem ?_
  rintro key ⟨i, id, tenant, md, m, addr, rid, resp, -, -, -, hrpc, -⟩
  cases hrpc

end TwoReplicas

/-- The two calls of a session, on two replicas. No binding is lost. -/
theorem replicas_transparent_two : ∃ t' c',
    Run (overStore (lossyMemory ∅))
        ⟨MemoryStore.new, fun i => (TwoReplicas.gateway i).handle (TwoReplicas.rpc i)⟩ t' c' ∧
      observed outward t' = observed outward TwoReplicas.records ∧
      ∀ i, c'.thread i = .ret (.ok (.unary [])) := by
  obtain ⟨t', c', hrun, hobs, hresult, -⟩ := replicas_transparent .default TwoReplicas.gateway
    (fun _ => rfl) TwoReplicas.rpc TwoReplicas.run
    ((Set.subsingleton_singleton.anti TwoReplicas.named).injOn sessionText)
  rw [TwoReplicas.released] at hrun
  exact ⟨t', c', hrun, hobs, fun i => hresult i _ (by cases i <;> rfl)⟩

end SparkGateway.Proofs.Handler
