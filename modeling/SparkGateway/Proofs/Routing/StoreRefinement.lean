import Mathlib.Data.Set.Function
import SparkGateway.Lib.Transcript
import SparkGateway.Proofs.Routing.BindReturns

/-!
# `SparkGateway.Proofs.Routing.StoreRefinement`: when `RedisStore` is a `MemoryStore`

`MemoryStore` keys its table by the `SessionKey` itself. `RedisStore` keys its table by a text,
`{prefix}:s:{tenant}|{user_id}|{session_id}`, and the three parts may contain the separator.
So two sessions can have one name, and then one of them finds, keeps or removes the binding of
the other.

`serve` runs one operation of a store alone. `Represents cfg m db` relates the two tables: the
database holds the bindings of `m` under their names, and nothing else under such a name. An
operation keeps it, with the same reply on both sides, unless it names a session whose name
another bound session has (`Clashes`).

`redisRefines_iff` says exactly when the two stores agree. Along every run without a clash they
give the same replies. For a set of sessions they agree on all runs over it if and only if no
two sessions of the set have the same text.
-/

set_option autoImplicit false

namespace SparkGateway.Proofs.Routing

open SparkGateway.Lib
open SparkGateway.Spec

/-! ### Operations one after another -/

/-- The session that a call names. -/
def StoreCall.session : StoreCall → Option SessionKey
  | .lookupSession key => some key
  | .bindSessionIfAbsent key _ => some key
  | .forgetSession key => some key
  | _ => none

/-- One call, alone on a state: its reply and the state after it. -/
def serve {S : Sig} {σ : Type} (store : AffinityStore S) (h : Handler S σ) (call : StoreCall)
    (s : σ) : Option String × σ :=
  (((call.on store).exec h s).value, ((call.on store).exec h s).state)

/-- A call on the in-process store. -/
abbrev memoryServe : StoreCall → MemoryStore.State → Option String × MemoryStore.State :=
  serve MemoryStore.store MemoryStore.apply

/-- A call on the Redis-backed store, on a healthy server on which nothing expires. -/
abbrev redisServe (cfg : RedisStoreConfig) :
    StoreCall → RedisStore.Db → Option String × RedisStore.Db :=
  serve (RedisStore.store cfg) RedisStore.apply

/-- A Redis database without a key. -/
def emptyDb : RedisStore.Db := fun _ => none

/-! ### Names -/

/-- The part of a session's Redis name that depends on the session. -/
def sessionText (k : SessionKey) : String := k.tenant ++ "|" ++ k.userId ++ "|" ++ k.sessionId

/-- Two sessions have one name exactly when they have one text, whatever the prefix. -/
theorem sessionKey_eq_iff (cfg : RedisStoreConfig) (k k' : SessionKey) :
    RedisStore.sessionKey cfg k = RedisStore.sessionKey cfg k' ↔
      sessionText k = sessionText k' := by
  rw [← String.toList_inj, ← String.toList_inj]
  simp [RedisStore.sessionKey, sessionText, String.toList_append]

/-- Different operations have different Redis keys. -/
theorem opKey_inj (cfg : RedisStoreConfig) {op op' : String}
    (h : RedisStore.opKey cfg op = RedisStore.opKey cfg op') : op = op' := by
  have hlist := congrArg String.toList h
  simp only [RedisStore.opKey, String.toList_append, List.append_cancel_left_eq] at hlist
  exact String.toList_inj.mp hlist

/-- The call names a session that shares its text with another session that is bound. -/
def Clashes (call : StoreCall) (m : MemoryStore.State) : Prop :=
  ∃ key, call.session = some key ∧
    ∃ key', key' ≠ key ∧ sessionText key' = sessionText key ∧ m.sessions key' ≠ none

/-! ### The two tables -/

/-- The database holds the entries of the two maps under their names, and under the name of a
session nothing but the binding of a session with that name. -/
structure Represents (cfg : RedisStoreConfig) (m : MemoryStore.State) (db : RedisStore.Db) :
    Prop where
  ops : ∀ op, db (RedisStore.opKey cfg op) = m.ops op
  bound : ∀ key b, m.sessions key = some b → db (RedisStore.sessionKey cfg key) = some b
  named : ∀ key b, db (RedisStore.sessionKey cfg key) = some b →
    ∃ key', sessionText key' = sessionText key ∧ m.sessions key' = some b

section
variable {cfg : RedisStoreConfig} {m : MemoryStore.State} {db : RedisStore.Db} {key : SessionKey}

/-- Without a clash the database says about a session what the map says. -/
theorem Represents.lookup (h : Represents cfg m db)
    (hclash : ∀ key', key' ≠ key → sessionText key' = sessionText key → m.sessions key' = none) :
    db (RedisStore.sessionKey cfg key) = m.sessions key := by
  cases hm : m.sessions key with
  | some b => exact h.bound key b hm
  | none =>
    cases hdb : db (RedisStore.sessionKey cfg key) with
    | none => rfl
    | some b =>
      -- Some session of that name is bound, and only `key` itself can be.
      obtain ⟨key', htext, hkey'⟩ := h.named key b hdb
      by_cases heq : key' = key
      · subst heq
        rw [hm] at hkey'
        cases hkey'
      · rw [hclash key' heq htext] at hkey'
        cases hkey'

/-- A session's entry is written on both sides. -/
theorem Represents.update (h : Represents cfg m db)
    (hclash : ∀ key', key' ≠ key → sessionText key' = sessionText key → m.sessions key' = none)
    (v : Option String) :
    Represents cfg { m with sessions := Function.update m.sessions key v }
      (Function.update db (RedisStore.sessionKey cfg key) v) where
  ops op := by
    rw [Function.update_of_ne (Ne.symm (RedisStore.sessionKey_ne_opKey cfg key op))]
    exact h.ops op
  bound key' b hb := by
    change Function.update m.sessions key v key' = some b at hb
    by_cases heq : key' = key
    · subst heq
      rw [Function.update_self] at hb ⊢
      exact hb
    · -- Another bound session has another name.
      have hbound : m.sessions key' = some b := by
        rwa [Function.update_of_ne heq] at hb
      have hname : RedisStore.sessionKey cfg key' ≠ RedisStore.sessionKey cfg key := by
        intro hname
        have hnone := hclash key' heq ((sessionKey_eq_iff cfg key' key).mp hname)
        rw [hnone] at hbound
        cases hbound
      rw [Function.update_of_ne hname]
      exact h.bound key' b hbound
  named key' b hb := by
    by_cases hname : RedisStore.sessionKey cfg key' = RedisStore.sessionKey cfg key
    · rw [hname, Function.update_self] at hb
      refine ⟨key, ((sessionKey_eq_iff cfg key' key).mp hname).symm, ?_⟩
      exact (Function.update_self _ _ _).trans hb
    · rw [Function.update_of_ne hname] at hb
      obtain ⟨key'', htext, hkey''⟩ := h.named key' b hb
      have hne : key'' ≠ key := by
        rintro rfl
        exact hname ((sessionKey_eq_iff cfg key' key'').mpr htext.symm)
      exact ⟨key'', htext, (Function.update_of_ne hne _ _).trans hkey''⟩

/-- An operation's entry is written on both sides. -/
theorem Represents.updateOp (h : Represents cfg m db) (op : String) (v : Option String) :
    Represents cfg { m with ops := Function.update m.ops op v }
      (Function.update db (RedisStore.opKey cfg op) v) where
  ops op' := by
    by_cases heq : op' = op
    · subst heq
      rw [Function.update_self]
      exact (Function.update_self op' v m.ops).symm
    · have hname : RedisStore.opKey cfg op' ≠ RedisStore.opKey cfg op :=
        fun hname => heq (opKey_inj cfg hname)
      rw [Function.update_of_ne hname, h.ops op']
      exact (Function.update_of_ne heq _ _).symm
  bound key b hb := by
    rw [Function.update_of_ne (RedisStore.sessionKey_ne_opKey cfg key op)]
    exact h.bound key b hb
  named key b hb := by
    rw [Function.update_of_ne (RedisStore.sessionKey_ne_opKey cfg key op)] at hb
    exact h.named key b hb

/-- Two empty tables. -/
theorem represents_empty (cfg : RedisStoreConfig) : Represents cfg MemoryStore.new emptyDb where
  ops _ := rfl
  bound _ _ hb := nomatch hb
  named _ _ hb := nomatch hb

end

/-! ### One call -/

section
variable {cfg : RedisStoreConfig} {m : MemoryStore.State} {db : RedisStore.Db}

/-- Reading an entry of the database and keeping it alive changes nothing. -/
theorem exec_lookupAndRefresh (key : String) (ttl : ℕ) (db : RedisStore.Db) :
    (((RedisStore.lookupAndRefresh key ttl).exec RedisStore.apply db).value,
      ((RedisStore.lookupAndRefresh key ttl).exec RedisStore.apply db).state) = (db key, db) := by
  unfold RedisStore.lookupAndRefresh
  cases hdb : db key with
  | none => simp [RedisStore.apply, hdb]
  | some v => simp [RedisStore.apply, hdb]

/-- A lookup of a session reads its entry and changes nothing. -/
theorem redisServe_lookupSession (key : SessionKey) (db : RedisStore.Db) :
    redisServe cfg (.lookupSession key) db = (db (RedisStore.sessionKey cfg key), db) :=
  exec_lookupAndRefresh (RedisStore.sessionKey cfg key) cfg.sessionTtl db

/-- A lookup of an operation reads its entry and changes nothing. -/
theorem redisServe_lookupOp (opId : String) (db : RedisStore.Db) :
    redisServe cfg (.lookupOp opId) db = (db (RedisStore.opKey cfg opId), db) :=
  exec_lookupAndRefresh (RedisStore.opKey cfg opId) cfg.opTtl db

/-- `bind_session_if_absent` of a bound session, with no one in between: it returns the binding
and changes nothing. -/
theorem redisServe_bind_of_some {key : SessionKey} {existing : String}
    (hdb : db (RedisStore.sessionKey cfg key) = some existing) (backend : String) :
    redisServe cfg (.bindSessionIfAbsent key backend) db = (some existing, db) := by
  simp [serve, StoreCall.on, RedisStore.store, RedisStore.bindSessionIfAbsent, RedisStore.apply,
    hdb]

/-- `bind_session_if_absent` of an unbound session, with no one in between: it binds its own
address and returns it. -/
theorem redisServe_bind_of_none {key : SessionKey}
    (hdb : db (RedisStore.sessionKey cfg key) = none) (backend : String) :
    redisServe cfg (.bindSessionIfAbsent key backend) db
      = (some backend, Function.update db (RedisStore.sessionKey cfg key) (some backend)) := by
  simp [serve, StoreCall.on, RedisStore.store, RedisStore.bindSessionIfAbsent, RedisStore.apply,
    hdb]

/-- A bind of a bound session returns the existing address. -/
theorem memoryServe_bind_of_some {key : SessionKey} {existing : String}
    (hm : m.sessions key = some existing) (backend : String) :
    memoryServe (.bindSessionIfAbsent key backend) m = (some existing, m) := by
  show (some (MemoryStore.apply (.bindSessionIfAbsent key backend) m).1,
    (MemoryStore.apply (.bindSessionIfAbsent key backend) m).2) = _
  rw [MemoryStore.apply_bind_of_some hm]

/-- A bind of an unbound session sets its own address. -/
theorem memoryServe_bind_of_none {key : SessionKey} (hm : m.sessions key = none)
    (backend : String) :
    memoryServe (.bindSessionIfAbsent key backend) m = (some backend,
      { m with sessions := Function.update m.sessions key (some backend) }) := by
  show (some (MemoryStore.apply (.bindSessionIfAbsent key backend) m).1,
    (MemoryStore.apply (.bindSessionIfAbsent key backend) m).2) = _
  rw [MemoryStore.apply_bind_of_none hm]

/-- **One operation**: unless it clashes, both stores give the same reply, and their tables
still represent each other. -/
theorem serve_represents (call : StoreCall) (h : Represents cfg m db) (hclash : ¬ Clashes call m) :
    (redisServe cfg call db).1 = (memoryServe call m).1 ∧
      Represents cfg (memoryServe call m).2 (redisServe cfg call db).2 := by
  -- No other bound session has the text of this one, so the two tables agree on its key.
  have hfree : ∀ key, call.session = some key → ∀ key', key' ≠ key →
      sessionText key' = sessionText key → m.sessions key' = none := by
    intro key hkey key' hne htext
    by_contra hbound
    exact hclash ⟨key, hkey, key', hne, htext, hbound⟩
  cases call with
  | lookupSession key =>
    rw [redisServe_lookupSession]
    exact ⟨h.lookup (hfree key rfl), h⟩
  | bindSessionIfAbsent key backend =>
    have hlookup := h.lookup (hfree key rfl)
    cases hm : m.sessions key with
    | some existing =>
      rw [hm] at hlookup
      rw [redisServe_bind_of_some hlookup backend, memoryServe_bind_of_some hm backend]
      exact ⟨rfl, h⟩
    | none =>
      rw [hm] at hlookup
      rw [redisServe_bind_of_none hlookup backend, memoryServe_bind_of_none hm backend]
      exact ⟨rfl, h.update (hfree key rfl) (some backend)⟩
  | forgetSession key => exact ⟨rfl, h.update (hfree key rfl) none⟩
  | lookupOp opId =>
    rw [redisServe_lookupOp]
    exact ⟨h.ops opId, h⟩
  | bindOp opId backend => exact ⟨rfl, h.updateOp opId (some backend)⟩
  | forgetOp opId => exact ⟨rfl, h.updateOp opId none⟩

end

/-! ### Whole runs -/

/-- The operations of `calls`, one after another, each store starting empty: every reply of
`RedisStore` is that of `MemoryStore`. -/
def Agree (cfg : RedisStoreConfig) (calls : List StoreCall) : Prop :=
  transcript (redisServe cfg) calls emptyDb = transcript memoryServe calls MemoryStore.new

/-- Every session that a call of the run names is in `K`. -/
def Within (K : Set SessionKey) (calls : List StoreCall) : Prop :=
  ∀ call ∈ calls, ∀ key, call.session = some key → key ∈ K

/-- A run without a clash. -/
abbrev ClashFree : List StoreCall → MemoryStore.State → Prop :=
  Along memoryServe fun call m => ¬ Clashes call m

/-- A run without a clash is served alike by both stores. -/
theorem agree_of_clashFree (cfg : RedisStoreConfig) (calls : List StoreCall)
    (h : ClashFree calls MemoryStore.new) : Agree cfg calls :=
  transcript_eq_of_sim (Represents cfg)
    (fun call _ _ hrep hclash => serve_represents call hrep hclash)
    calls MemoryStore.new emptyDb (represents_empty cfg) h

/-- A call touches no session but the one it names. -/
theorem memoryServe_sessions (call : StoreCall) (m : MemoryStore.State) {key : SessionKey}
    (hkey : call.session ≠ some key) :
    (memoryServe call m).2.sessions key = m.sessions key := by
  cases call with
  | lookupSession _ => rfl
  | bindSessionIfAbsent key' backend =>
    have hne : key ≠ key' := fun heq => hkey (congrArg some heq.symm)
    cases hm : m.sessions key' with
    | some existing => rw [memoryServe_bind_of_some hm]
    | none =>
      rw [memoryServe_bind_of_none hm]
      exact Function.update_of_ne hne _ _
  | forgetSession key' =>
    have hne : key ≠ key' := fun heq => hkey (congrArg some heq.symm)
    exact Function.update_of_ne hne none m.sessions
  | lookupOp _ => rfl
  | bindOp _ _ => rfl
  | forgetOp _ => rfl

/-- Over sessions with different texts no call of a run clashes: a bound session is one that
the run has named. -/
theorem clashFree_of_injOn {K : Set SessionKey} (hK : Set.InjOn sessionText K) :
    ∀ (calls : List StoreCall) (m : MemoryStore.State), Within K calls →
      (∀ key, m.sessions key ≠ none → key ∈ K) → ClashFree calls m := by
  intro calls
  induction calls with
  | nil => intro m _ _; trivial
  | cons call calls ih =>
    intro m hcalls hbound
    refine ⟨?_, ih _ (fun c hc => hcalls c (List.mem_cons_of_mem _ hc)) ?_⟩
    · rintro ⟨key, hkey, key', hne, htext, hkey'⟩
      exact hne (hK (hbound key' hkey') (hcalls call List.mem_cons_self key hkey) htext)
    · intro key hkey
      by_cases hname : call.session = some key
      · exact hcalls call List.mem_cons_self key hname
      · rw [memoryServe_sessions call m hname] at hkey
        exact hbound key hkey

/-- The run that tells two sessions with one text apart: `MemoryStore` does not find the second
one, `RedisStore` finds the binding of the first. -/
theorem eq_of_agree (cfg : RedisStoreConfig) {key key' : SessionKey}
    (htext : sessionText key = sessionText key')
    (h : Agree cfg [.bindSessionIfAbsent key "a", .lookupSession key']) : key = key' := by
  by_contra hne
  have hname := (sessionKey_eq_iff cfg key key').mpr htext
  -- What each store replies to the lookup.
  have hredis : (redisServe cfg (.lookupSession key')
      (redisServe cfg (.bindSessionIfAbsent key "a") emptyDb).2).1 = some "a" := by
    rw [redisServe_bind_of_none rfl, redisServe_lookupSession, hname]
    exact Function.update_self _ _ _
  have hmemory : (memoryServe (.lookupSession key')
      (memoryServe (.bindSessionIfAbsent key "a") MemoryStore.new).2).1 = none := by
    rw [memoryServe_bind_of_none rfl]
    exact Function.update_of_ne (Ne.symm hne) _ _
  have hreply := congrArg (fun replies => replies[1]?.map Prod.snd) h
  simp only [transcript, List.getElem?_cons_succ, List.getElem?_cons_zero, Option.map_some,
    hredis, hmemory] at hreply
  cases hreply

/-- **When `RedisStore` refines `MemoryStore`**, for every prefix and TTL. Along every run
without a clash it gives every reply that `MemoryStore` gives. And it does so on all runs over a
set of sessions exactly when different sessions of the set have different texts. -/
theorem redisRefines_iff (cfg : RedisStoreConfig) :
    (∀ calls, ClashFree calls MemoryStore.new → Agree cfg calls) ∧
      ∀ K : Set SessionKey,
        (∀ calls, Within K calls → Agree cfg calls) ↔ Set.InjOn sessionText K := by
  refine ⟨agree_of_clashFree cfg, fun K => ⟨?_, ?_⟩⟩
  · -- A bind of one session and a lookup of the other tell the stores apart.
    intro hagree key hkey key' hkey' htext
    refine eq_of_agree cfg htext (hagree _ ?_)
    intro call hcall k hk
    simp only [List.mem_cons, List.not_mem_nil, or_false] at hcall
    cases hcall with
    | inl hbind =>
      subst hbind
      cases hk
      exact hkey
    | inr hlookup =>
      subst hlookup
      cases hk
      exact hkey'
  · intro hK calls hcalls
    refine agree_of_clashFree cfg calls (clashFree_of_injOn hK calls MemoryStore.new hcalls ?_)
    intro key hkey
    exact absurd rfl hkey

/-- The tenant `a|b` with the user `c`, and the tenant `a` with the user `b|c`: in Redis the
second finds the binding of the first. -/
theorem separatorInTenant_sharesBinding :
    let calls : List StoreCall := [.bindSessionIfAbsent ⟨"a|b", "c", "s"⟩ "be-1:15002",
      .lookupSession ⟨"a", "b|c", "s"⟩]
    (transcript (redisServe .default) calls emptyDb).map Prod.snd
        = [some "be-1:15002", some "be-1:15002"] ∧
      (transcript memoryServe calls MemoryStore.new).map Prod.snd
        = [some "be-1:15002", none] := by
  decide +kernel

end SparkGateway.Proofs.Routing
