import SparkGateway.Lib.Interleave
import SparkGateway.Spec.Affinity

/-!
# `SparkGateway.Proofs.Routing.BindReturns`: what `bind_session_if_absent` returns

On Redis, `bind_session_if_absent` is up to two commands: a `SET NX`, and a `GET` of the
winner when the `SET NX` was refused. Other replicas' commands can come between the two, and
a key can expire at any point. `StoreCall` are the operations of the store, `expiringRedis`
is a healthy server whose keys can expire.

`HeldDuring` says that a key held a value at some moment of a call, from its first command to
its last. A value that the call read or wrote was held so. The one other value it can return
is its own argument, after the key went away between its `SET NX` and its `GET`: the source
accepts this case and does not bind the key again (`bind_returns_cases`).
`not_bindReturnsHeld` is a run of two replicas that takes it.
-/

set_option autoImplicit false

namespace SparkGateway.Proofs.Routing

open SparkGateway.Lib
open SparkGateway.Spec

/-- A call of one of the operations of the store. -/
inductive StoreCall where
  | lookupSession (key : SessionKey)
  | bindSessionIfAbsent (key : SessionKey) (backend : String)
  | forgetSession (key : SessionKey)
  | lookupOp (opId : String)
  | bindOp (opId backend : String)
  | forgetOp (opId : String)

/-- The program of a call on a store, with the address it returns, if it returns one. -/
def StoreCall.on {S : Sig} (store : AffinityStore S) : StoreCall → Prog S (Option String)
  | .lookupSession key => store.lookupSession key
  | .bindSessionIfAbsent key backend => do
      let b ← store.bindSessionIfAbsent key backend
      pure (some b)
  | .forgetSession key => do
      store.forgetSession key
      pure none
  | .lookupOp opId => store.lookupOp opId
  | .bindOp opId backend => do
      store.bindOp opId backend
      pure none
  | .forgetOp opId => do
      store.forgetOp opId
      pure none

/-- A healthy Redis server. Any key can expire between any two commands. -/
def expiringRedis : Semantics RedisSig RedisStore.Db :=
  Semantics.ofHandler RedisStore.apply fun db db' => ∃ key, db' = Function.update db key none

/-- The calls `call` at their start, on the database `db`. -/
def storeCalls {ι : Type} (cfg : RedisStoreConfig) (db : RedisStore.Db) (call : ι → StoreCall) :
    Config RedisSig RedisStore.Db ι (Option String) :=
  ⟨db, fun i => (call i).on (RedisStore.store cfg)⟩

section
variable {ι : Type} [DecidableEq ι]

/-- The step is one of `i`. -/
def ActsIn (i : ι) (rec : Record RedisSig RedisStore.Db ι) : Prop :=
  ∃ e, rec.actor = some (i, e)

/-- The key held the value at some moment between the first and the last command of `i`: in
the stretch `seg` of the run that begins with its first and ends with its last command, the
key has the value after one of the steps. -/
def HeldDuring (i : ι) (t : List (Record RedisSig RedisStore.Db ι)) (key value : String) : Prop :=
  ∃ pre seg post, t = pre ++ seg ++ post ∧ eventsOf i pre = [] ∧ eventsOf i post = [] ∧
    (∃ rec, seg.head? = some rec ∧ ActsIn i rec) ∧
    (∃ rec, seg.getLast? = some rec ∧ ActsIn i rec) ∧
    ∃ rec ∈ seg, rec.post key = some value

/-- The call `i` tried to bind a key that was bound, and then found it unbound. -/
def LostBetween (i : ι) (t : List (Record RedisSig RedisStore.Db ι)) (cfg : RedisStoreConfig)
    (key : SessionKey) (backend : String) : Prop :=
  ∃ pre set mid get post, t = pre ++ set :: (mid ++ get :: post) ∧
    set.actor = some (i, ⟨.setNxEx (RedisStore.sessionKey cfg key) backend cfg.sessionTtl,
      .ok none⟩) ∧
    get.actor = some (i, ⟨.get (RedisStore.sessionKey cfg key), .ok none⟩) ∧
    set.pre (RedisStore.sessionKey cfg key) ≠ none ∧
    get.pre (RedisStore.sessionKey cfg key) = none

end

/-- Every bind returns a value that the key held during the call. -/
def BindReturnsHeld (cfg : RedisStoreConfig) : Prop :=
  ∀ (ι : Type) [DecidableEq ι] (call : ι → StoreCall) (db : RedisStore.Db)
    (t : List (Record RedisSig RedisStore.Db ι))
    (c : Config RedisSig RedisStore.Db ι (Option String)),
    Run expiringRedis (storeCalls cfg db call) t c →
    ∀ i key backend b, call i = .bindSessionIfAbsent key backend →
      c.thread i = .ret (some b) → HeldDuring i t (RedisStore.sessionKey cfg key) b

/-! ### The paths of a bind -/

/-- The commands and replies of a bind that has returned, with what it returned. -/
theorem bind_after {cfg : RedisStoreConfig} {key : SessionKey} {backend b : String}
    {es : List (Event RedisSig)}
    (h : Prog.After ((StoreCall.bindSessionIfAbsent key backend).on (RedisStore.store cfg)) es
      (.ret (some b))) :
    (∃ r, es = [⟨.setNxEx (RedisStore.sessionKey cfg key) backend cfg.sessionTtl, r⟩] ∧
        r ≠ .ok none ∧ b = backend) ∨
    (∃ r, es = [⟨.setNxEx (RedisStore.sessionKey cfg key) backend cfg.sessionTtl, .ok none⟩,
          ⟨.get (RedisStore.sessionKey cfg key), r⟩] ∧
        (r = .ok (some b) ∨ (∀ v, r ≠ .ok (some v)) ∧ b = backend)) := by
  obtain ⟨r, es', rfl, hrest⟩ := Prog.After.first h
  rcases r with err | _ | ok
  · obtain ⟨rfl, ⟨⟩⟩ := hrest.returned
    exact Or.inl ⟨_, rfl, nofun, rfl⟩
  · -- The `SET NX` was refused: the `GET` follows.
    obtain ⟨r', es'', rfl, hrest'⟩ := Prog.After.first hrest
    rcases r' with err | _ | existing
    · obtain ⟨rfl, ⟨⟩⟩ := hrest'.returned
      exact Or.inr ⟨_, rfl, Or.inr ⟨nofun, rfl⟩⟩
    · obtain ⟨rfl, ⟨⟩⟩ := hrest'.returned
      exact Or.inr ⟨_, rfl, Or.inr ⟨nofun, rfl⟩⟩
    · obtain ⟨rfl, ⟨⟩⟩ := hrest'.returned
      exact Or.inr ⟨_, rfl, Or.inl rfl⟩
  · obtain ⟨rfl, ⟨⟩⟩ := hrest.returned
    exact Or.inl ⟨_, rfl, nofun, rfl⟩

/-! ### What the commands of a healthy server say -/

/-- A `SET NX` that was not refused leaves its value under the key. -/
theorem setNxEx_post {key value : String} {ttl : ℕ} {db db' : RedisStore.Db}
    {r : RedisCmd.Reply (.setNxEx key value ttl)}
    (h : expiringRedis.cmd (.setNxEx key value ttl) db r db') (hr : r ≠ .ok none) :
    db' key = some value := by
  cases hold : db key with
  | some v =>
    obtain ⟨rfl, -⟩ := Prod.mk.inj ((RedisStore.apply_setNxEx_of_some hold value ttl).symm.trans h)
    exact absurd rfl hr
  | none =>
    obtain ⟨-, rfl⟩ := Prod.mk.inj ((RedisStore.apply_setNxEx_of_none hold value ttl).symm.trans h)
    exact Function.update_self _ _ _

/-- A `SET NX` that was refused found the key. -/
theorem setNxEx_refused {key value : String} {ttl : ℕ} {db db' : RedisStore.Db}
    (h : expiringRedis.cmd (.setNxEx key value ttl) db (.ok none) db') : db key ≠ none := by
  intro hold
  obtain ⟨hr, -⟩ := Prod.mk.inj ((RedisStore.apply_setNxEx_of_none hold value ttl).symm.trans h)
  cases hr

/-- A `GET` reports the key and changes nothing. -/
theorem get_reply {key : String} {db db' : RedisStore.Db} {r : RedisCmd.Reply (.get key)}
    (h : expiringRedis.cmd (.get key) db r db') : r = .ok (db key) ∧ db' = db := by
  obtain ⟨hr, hdb⟩ := Prod.mk.inj h
  exact ⟨hr.symm, hdb.symm⟩

/-! ### The result -/

/-- **What a bind returns**, in every interleaving of any calls of the store on a healthy
server whose keys can expire: a value that the key held during the call, or the call's own
argument after the key was lost between its two commands. -/
theorem bind_returns_cases {ι : Type} [DecidableEq ι] {cfg : RedisStoreConfig}
    {call : ι → StoreCall} {db : RedisStore.Db} {t : List (Record RedisSig RedisStore.Db ι)}
    {c : Config RedisSig RedisStore.Db ι (Option String)}
    (hrun : Run expiringRedis (storeCalls cfg db call) t c) {i : ι} {key : SessionKey}
    {backend b : String} (hcall : call i = .bindSessionIfAbsent key backend)
    (hret : c.thread i = .ret (some b)) :
    HeldDuring i t (RedisStore.sessionKey cfg key) b ∨
      b = backend ∧ LostBetween i t cfg key backend := by
  have hpath := hrun.after i
  rw [hret] at hpath
  simp only [storeCalls, hcall] at hpath
  rcases bind_after hpath with ⟨r, hes, hr, rfl⟩ | ⟨r, hes, hb⟩
  · -- One command: the `SET NX` that made the binding.
    obtain ⟨pre, rec, post, rfl, hact, hpre, hpost⟩ := eventsOf_eq_cons hes
    obtain ⟨c₁, c₂, -, hstep, -⟩ := hrun.step_at
    have hheld : rec.post (RedisStore.sessionKey cfg key) = some b :=
      setNxEx_post (hstep.cmd_of hact) hr
    exact Or.inl ⟨pre, [rec], post, by simp, hpre, hpost, ⟨rec, rfl, _, hact⟩,
      ⟨rec, rfl, _, hact⟩, rec, List.mem_cons_self, hheld⟩
  · -- Two commands: cut the run at both.
    obtain ⟨pre, set, rest, rfl, hset, hpre, hrest⟩ := eventsOf_eq_cons hes
    obtain ⟨mid, get, post, rfl, hget, hmid, hpost⟩ := eventsOf_eq_cons hrest
    obtain ⟨c₁, c₂, -, hsetStep, hrun₂⟩ := hrun.step_at
    obtain ⟨c₃, c₄, -, hgetStep, -⟩ := hrun₂.step_at
    obtain ⟨hr, hsame⟩ := get_reply (hgetStep.cmd_of hget)
    rcases hb with rfl | ⟨hnone, rfl⟩
    · -- The `GET` found the winner.
      have hheld : get.post (RedisStore.sessionKey cfg key) = some b := by
        rw [hsame]
        exact (Except.ok.inj hr).symm
      refine Or.inl ⟨pre, set :: (mid ++ [get]), post, by simp, hpre, hpost,
        ⟨set, rfl, _, hset⟩, ⟨get, ?_, _, hget⟩, get, by simp, hheld⟩
      rw [← List.cons_append, List.getLast?_concat]
    · -- The `GET` found nothing.
      have hgone : get.pre (RedisStore.sessionKey cfg key) = none := by
        cases hval : get.pre (RedisStore.sessionKey cfg key) with
        | none => rfl
        | some v =>
          rw [hval] at hr
          exact absurd hr (hnone v)
      rw [hgone] at hr
      subst hr
      exact Or.inr ⟨rfl, pre, set, mid, get, post, rfl, hset, hget,
        setNxEx_refused (hsetStep.cmd_of hset), hgone⟩

/-! ### A run that loses the key -/

namespace LostKey

/-- The session both replicas work on. -/
def key : SessionKey := ⟨"team-a", "alice", "sess-1"⟩

/-- The Redis key of the session. -/
def redisKey : String := RedisStore.sessionKey .default key

/-- One replica binds the session to `be-2`, the other forgets it. -/
def call : Bool → StoreCall
  | true => .bindSessionIfAbsent key "be-2:15002"
  | false => .forgetSession key

/-- The session is bound to `be-1`. -/
def bound : RedisStore.Db := Function.update (fun _ => none) redisKey (some "be-1:15002")

/-- The session is no longer bound. -/
def unbound : RedisStore.Db := Function.update bound redisKey none

/-- The `SET NX` is refused, the other replica's `DEL` removes the key, and the `GET` finds
nothing. -/
def trace : List (Record RedisSig RedisStore.Db Bool) :=
  [⟨some (true, ⟨.setNxEx redisKey "be-2:15002" 3600, .ok none⟩), bound, bound⟩,
    ⟨some (false, ⟨.del redisKey, (.ok 1 : Except RedisError ℕ)⟩), bound, unbound⟩,
    ⟨some (true, ⟨.get redisKey, .ok none⟩), unbound, unbound⟩]

/-- The binding before the `DEL`. -/
theorem bound_redisKey : bound redisKey = some "be-1:15002" := Function.update_self _ _ _

/-- There is no binding after the `DEL`. -/
theorem unbound_redisKey : unbound redisKey = none := Function.update_self _ _ _

/-- The trace is a run, and the bind returns its own argument. -/
theorem run : ∃ c, Run expiringRedis (storeCalls .default bound call) trace c ∧
    c.thread true = .ret (some "be-2:15002") := by
  have s₁ : expiringRedis.cmd (.setNxEx redisKey "be-2:15002" 3600) bound
      (.ok none : Except RedisError (Option String)) bound :=
    RedisStore.apply_setNxEx_of_some bound_redisKey "be-2:15002" 3600
  have s₂ : expiringRedis.cmd (.del redisKey) bound (.ok 1 : Except RedisError ℕ) unbound := by
    show RedisStore.apply (.del redisKey) bound = (.ok 1, unbound)
    simp [RedisStore.apply, bound_redisKey, unbound]
  have s₃ : expiringRedis.cmd (.get redisKey) unbound
      (.ok none : Except RedisError (Option String)) unbound := by
    show RedisStore.apply (.get redisKey) unbound = (.ok none, unbound)
    simp [RedisStore.apply, unbound_redisKey]
  have h₁ : Run expiringRedis (storeCalls .default bound call) _ _ :=
    Run.nil.snoc (.cmd (i := true) rfl s₁)
  have h₂ := h₁.snoc (.cmd (i := false) rfl s₂)
  have h₃ := h₂.snoc (.cmd (i := true) rfl s₃)
  exact ⟨_, h₃, rfl⟩

/-- The key never holds the value that the bind returns. -/
theorem post_ne {rec : Record RedisSig RedisStore.Db Bool} (h : rec ∈ trace) :
    rec.post redisKey ≠ some "be-2:15002" := by
  simp only [trace, List.mem_cons, List.not_mem_nil, or_false] at h
  rcases h with rfl | rfl | rfl
  · show bound redisKey ≠ some "be-2:15002"
    rw [bound_redisKey]
    decide
  · show unbound redisKey ≠ some "be-2:15002"
    rw [unbound_redisKey]
    decide
  · show unbound redisKey ≠ some "be-2:15002"
    rw [unbound_redisKey]
    decide

end LostKey

/-- The two cases at the run that loses the key. -/
theorem bind_returns_cases_lostKey :
    HeldDuring true LostKey.trace LostKey.redisKey "be-2:15002" ∨
      "be-2:15002" = "be-2:15002" ∧
        LostBetween true LostKey.trace .default LostKey.key "be-2:15002" := by
  obtain ⟨c, hrun, hret⟩ := LostKey.run
  exact bind_returns_cases hrun rfl hret

/-- A bind can return a value that the key did not hold at any moment of the call. -/
theorem not_bindReturnsHeld : ¬ BindReturnsHeld .default := by
  intro h
  obtain ⟨c, hrun, hret⟩ := LostKey.run
  obtain ⟨pre, seg, post, htrace, -, -, -, -, rec, hrec, hheld⟩ :=
    h Bool LostKey.call LostKey.bound LostKey.trace c hrun true LostKey.key _ _ rfl hret
  have hmem : rec ∈ LostKey.trace := by
    rw [htrace]
    exact List.mem_append_left _ (List.mem_append_right _ hrec)
  exact LostKey.post_ne hmem hheld

end SparkGateway.Proofs.Routing
